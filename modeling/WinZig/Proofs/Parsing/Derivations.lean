import WinZig.Proofs.Parsing.Grammar

/-!
# Induction over derivations

What holds of every derivation is shown production by production. `KeptByExpressions` and `Kept` list
what there is to show: for each production, the step from its parts to the whole. The parts are given
by rules of one's own, which relate tokens to what they stand for, just as the rules of the grammar
do; a statement about trees alone is a rule that ignores the tokens.

The productions refer to each other through lists that are separated, repeated or left out. So the
induction runs over these lists as well, and a step is given its lists as lists of the own rule.
-/

namespace WinZig.Grammar

/-! ## Lists -/

section Lists

variable {α : Type} {mark : Kind} {item other : Rule α} {tokens : List Token} {values : List α}

/-- A list with marks holds whatever its items are as well. -/
theorem Separated.imp (list : Separated mark item tokens values)
    (follows : ∀ part value, item part value → other part value) :
    Separated mark other tokens values := by
  induction list with
  | one only => exact .one (follows _ _ only)
  | more first marked others inductionHypothesis =>
    exact .more (follows _ _ first) marked inductionHypothesis

/-- A member of a list with marks is derived from some of the tokens of the list. -/
theorem Separated.mem (list : Separated mark item tokens values) :
    ∀ value ∈ values, ∃ part, item part value ∧ part ⊆ tokens := by
  induction list with
  | one only => exact List.forall_mem_singleton.mpr ⟨_, only, List.Subset.refl _⟩
  | more first marked others inductionHypothesis =>
    refine List.forall_mem_cons.mpr
      ⟨⟨_, first, List.subset_append_left _ _⟩, fun value member => ?_⟩
    obtain ⟨part, derived, within⟩ := inductionHypothesis value member
    exact ⟨part, derived, List.Subset.trans (List.subset_cons_of_subset _ within)
      (List.subset_append_right _ _)⟩

/-- A list with marks has a member. -/
theorem Separated.ne_nil (list : Separated mark item tokens values) : values ≠ [] := by
  cases list <;> exact List.cons_ne_nil _ _

/-- A list without marks holds whatever its items are as well. -/
theorem Repeated.imp (list : Repeated item tokens values)
    (follows : ∀ part value, item part value → other part value) :
    Repeated other tokens values := by
  induction list with
  | none => exact .none
  | more first others inductionHypothesis => exact .more (follows _ _ first) inductionHypothesis

/-- A member of a list without marks is derived from some of the tokens of the list. -/
theorem Repeated.mem (list : Repeated item tokens values) :
    ∀ value ∈ values, ∃ part, item part value ∧ part ⊆ tokens := by
  induction list with
  | none => exact List.forall_mem_nil _
  | more first others inductionHypothesis =>
    refine List.forall_mem_cons.mpr
      ⟨⟨_, first, List.subset_append_left _ _⟩, fun value member => ?_⟩
    obtain ⟨part, derived, within⟩ := inductionHypothesis value member
    exact ⟨part, derived, List.Subset.trans within (List.subset_append_right _ _)⟩

/-- A list that is left out has no members. -/
theorem Optional.mem {item : Rule (List α)} (list : Optional item tokens values) {value : α}
    (member : value ∈ values) : item tokens values := by
  cases list with
  | absent => exact absurd member List.not_mem_nil
  | present list => exact list

end Lists

/-! ## Expressions -/

/-- The steps of an induction over expressions. -/
structure KeptByExpressions (enabled : Feature → Bool) (expressions : Rule Node) : Prop where
  literal {tokens node} (written : Literal tokens node) : expressions tokens node
  endOfFile {tok : Token} (spelled : tok.kind = .eofWord) :
    expressions [tok] (.boolean tok .unknown false)
  name {tokens node} (written : Name tokens node) : expressions tokens node
  call {callee opening args nodes closing} (named : callee.kind = .identifier)
    (opened : opening.kind = .openParen) (given : Optional (Separated .comma expressions) args nodes)
    (closed : closing.kind = .closeParen) :
    expressions (callee :: opening :: (args ++ [closing])) (.call callee .unknown callee.text nodes)
  group {opening inner node closing} (opened : opening.kind = .openParen)
    (enclosed : expressions inner node) (closed : closing.kind = .closeParen) :
    expressions (opening :: (inner ++ [closing])) node
  unary {op tokens node} (applies : isUnary enabled op.kind = true)
    (only : expressions tokens node) :
    expressions (op :: tokens) (.unary op .unknown op.kind node)
  binary {level left leftNode op right rightNode} (binds : op.kind ∈ operators level)
    (before : expressions left leftNode) (behind : expressions right rightNode) :
    expressions (left ++ op :: right) (.binary op .unknown op.kind leftNode rightNode)

variable {enabled : Feature → Bool} {expressions assignments : Rule Node}
  {statements : Rule (List Node)} {clauses : Rule (Clause Node)} {tokens : List Token}

/-- What every production of expressions keeps holds of all expressions. -/
theorem KeptByExpressions.expression (kept : KeptByExpressions enabled expressions) {floor : Nat}
    {node : Node} (derived : Expression enabled floor tokens node) : expressions tokens node :=
  @Expression.rec enabled (fun _ tokens node _ => expressions tokens node)
    (fun tokens node _ => expressions tokens node)
    (fun tokens nodes _ => Optional (Separated .comma expressions) tokens nodes)
    (fun tokens nodes _ => Separated .comma expressions tokens nodes)
    (fun _ only => only)
    (fun binds _ _ _ before behind => kept.binary binds before behind)
    (fun written => kept.literal written)
    (fun spelled _ => kept.endOfFile spelled)
    (fun written => kept.name written)
    (fun named opened _ closed given => kept.call named opened given closed)
    (fun opened _ closed enclosed => kept.group opened enclosed closed)
    (fun applies _ only => kept.unary applies only)
    .absent (fun _ list => .present list)
    (fun _ only => .one only)
    (fun _ marked _ first others => .more first marked others)
    floor tokens node derived

/-! ## Statements -/

/-- The steps of an induction over statements, on top of those over expressions. What a case statement
does otherwise is a list of statements behind a word. -/
structure Kept (enabled : Feature → Bool) (expressions assignments : Rule Node)
    (statements : Rule (List Node)) (clauses : Rule (Clause Node)) : Prop
    extends KeptByExpressions enabled expressions where
  assignment {target targetNode sign value node} (named : Name target targetNode)
    (signed : sign.kind = .assign) (written : expressions value node) :
    assignments (target ++ sign :: value) (.assign sign targetNode node)
  empty : statements [] []
  assigned {tokens node} (assigned : assignments tokens node) : statements tokens [node]
  exchange {left leftNode sign right rightNode} (before : Name left leftNode)
    (signed : sign.kind = .swap) (behind : Name right rightNode) :
    statements (left ++ sign :: right) [.swap sign leftNode rightNode]
  output {word opening args nodes closing} (written : word.kind = .outputWord)
    (opened : opening.kind = .openParen) (given : Separated .comma expressions args nodes)
    (closed : closing.kind = .closeParen) :
    statements (word :: opening :: (args ++ [closing])) [.call word .unknown word.text nodes]
  read {word opening args nodes closing} (written : word.kind = .readWord)
    (opened : opening.kind = .openParen) (given : Separated .comma Name args nodes)
    (closed : closing.kind = .closeParen) :
    statements (word :: opening :: (args ++ [closing])) [.call word .unknown word.text nodes]
  ifThen {word condition node consequence body nodes} (written : word.kind = .ifWord)
    (tested : expressions condition node) (follows : consequence.kind = .thenWord)
    (held : statements body nodes) :
    statements (word :: (condition ++ consequence :: body)) [.conditional word node nodes []]
  ifThenElse {word condition node consequence body nodes alternative other others}
    (written : word.kind = .ifWord) (tested : expressions condition node)
    (follows : consequence.kind = .thenWord) (held : statements body nodes)
    (alternates : alternative.kind = .elseWord) (failed : statements other others) :
    statements (word :: (condition ++ consequence :: (body ++ alternative :: other)))
      [.conditional word node nodes others]
  whileLoop {word condition node consequence body nodes} (written : word.kind = .whileWord)
    (tested : expressions condition node) (follows : consequence.kind = .doWord)
    (held : statements body nodes) :
    statements (word :: (condition ++ consequence :: body)) [.whileLoop word node nodes]
  repeatLoop {word body lists closing condition node} (written : word.kind = .repeatWord)
    (held : Separated .semicolon statements body lists) (closed : closing.kind = .untilWord)
    (tested : expressions condition node) :
    statements (word :: (body ++ closing :: condition)) [.repeatLoop word lists.flatten node]
  forLoop {word opening start startNode first condition node second step stepNode closing body nodes}
    (written : word.kind = .forWord) (opened : opening.kind = .openParen)
    (begun : assignments start startNode) (divided : first.kind = .semicolon)
    (tested : expressions condition node) (dividedAgain : second.kind = .semicolon)
    (stepped : assignments step stepNode) (closed : closing.kind = .closeParen)
    (held : statements body nodes) :
    statements
      (word :: opening :: (start ++ first :: (condition ++ second :: (step ++ closing :: body))))
      [.forLoop word startNode node stepNode nodes]
  caseOf {word selector node consequence listed clauseNodes rest restNodes closing}
    (written : word.kind = .caseWord) (selected : expressions selector node)
    (follows : consequence.kind = .ofWord) (each : Repeated clauses listed clauseNodes)
    (remaining : Optional statements rest restNodes) (closed : closing.kind = .endWord) :
    statements (word :: (selector ++ consequence :: (listed ++ (rest ++ [closing]))))
      [.caseOf word node clauseNodes restNodes]
  returnOf {word value node} (written : word.kind = .returnWord) (given : expressions value node) :
    statements (word :: value) [.returnOf word node]
  compound {opening body lists closing} (opened : opening.kind = .beginWord)
    (held : Separated .semicolon statements body lists) (closed : closing.kind = .endWord) :
    statements (opening :: (body ++ [closing])) lists.flatten
  clause {low lowNode bound highNode colon body nodes semicolon} (value : CaseValue low lowNode)
    (upper : UpperBound bound highNode) (divided : colon.kind = .colon)
    (held : statements body nodes) (closed : semicolon.kind = .semicolon) :
    clauses (low ++ (bound ++ colon :: (body ++ [semicolon]))) ⟨lowNode, highNode, nodes⟩
  otherwise {word body nodes} (written : word.kind = .otherwiseWord) (held : statements body nodes) :
    statements (word :: body) nodes
  ended {tokens nodes semicolon} (held : statements tokens nodes)
    (ended : semicolon.kind = .semicolon) : statements (tokens ++ [semicolon]) nodes

namespace Kept

variable (kept : Kept enabled expressions assignments statements clauses)

include kept

/-- What every production keeps holds of all assignments. -/
theorem ofAssignment {node : Node} (derived : Assignment enabled tokens node) :
    assignments tokens node := by
  cases derived with
  | assign named signed written => exact kept.assignment named signed (kept.expression written)

/-- What every production keeps holds of all statements. -/
theorem statement {beforeElse : Bool} {nodes : List Node}
    (derived : Statement enabled beforeElse tokens nodes) : statements tokens nodes :=
  @Statement.rec enabled (fun _ tokens nodes _ => statements tokens nodes)
    (fun tokens nodes _ => statements tokens nodes)
    (fun tokens clause _ => clauses tokens clause)
    (fun tokens nodes _ => statements tokens nodes)
    (fun tokens lists _ => Separated .semicolon statements tokens lists)
    (fun tokens nodes _ => Repeated clauses tokens nodes)
    (fun tokens nodes _ => Optional statements tokens nodes)
    kept.empty
    (fun assigned => kept.assigned (kept.ofAssignment assigned))
    (fun before signed behind => kept.exchange before signed behind)
    (fun written opened given closed =>
      kept.output written opened (given.imp fun _ _ => kept.expression) closed)
    (fun written opened given closed => kept.read written opened given closed)
    (fun written tested follows _ held =>
      kept.ifThen written (kept.expression tested) follows held)
    (fun written tested follows _ alternates _ held failed =>
      kept.ifThenElse written (kept.expression tested) follows held alternates failed)
    (fun written tested follows _ held =>
      kept.whileLoop written (kept.expression tested) follows held)
    (fun written _ closed tested held =>
      kept.repeatLoop written held closed (kept.expression tested))
    (fun written opened begun divided tested dividedAgain stepped closed _ held =>
      kept.forLoop written opened (kept.ofAssignment begun) divided (kept.expression tested)
        dividedAgain (kept.ofAssignment stepped) closed held)
    (fun written selected follows _ _ closed each remaining =>
      kept.caseOf written (kept.expression selected) follows each remaining closed)
    (fun written given => kept.returnOf written (kept.expression given))
    (fun _ held => held)
    (fun opened _ closed held => kept.compound opened held closed)
    (fun value upper divided _ closed held => kept.clause value upper divided held closed)
    (fun written _ held => kept.otherwise written held)
    (fun written _ ended held => kept.ended (kept.otherwise written held) ended)
    (fun _ only => .one only)
    (fun _ marked _ first others => .more first marked others)
    .none (fun _ _ first others => .more first others)
    .absent (fun _ list => .present list)
    beforeElse tokens nodes derived

/-- What every production keeps holds of all bodies. -/
theorem body {nodes : List Node} (derived : Body enabled tokens nodes) :
    statements tokens nodes := by
  have compound : Statement enabled false tokens nodes := .compound derived
  exact kept.statement compound

end Kept

end WinZig.Grammar
