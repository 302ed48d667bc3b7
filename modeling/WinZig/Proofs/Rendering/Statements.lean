import WinZig.Proofs.Rendering.Precedence

/-!
# Written statements are derived

A list of statements is written as one compound statement, which contributes the same list. Since
every branch is closed by its `end`, no `else` can be taken for that of an inner conditional.
-/

namespace WinZig.Rendering

open Grammar Lexeme

/-! ## What can be written -/

/-- What can be written as text: names that are not reserved, integers of 63 bits, and characters
that can be quoted. -/
def written : Shape.Lexicon where
  name text := isWord text.toList = true ∧ Kind.reservedWord? text = none
  integer value := 0 ≤ value ∧ value < 2 ^ 63
  character c := isQuotable c = true
  output callee := callee = Kind.outputWord.name
  read callee := callee = Kind.readWord.name

/-- Decimal digits are numerals. -/
theorem mem_numerals {c : Char} (digit : c.isDigit = true) : c ∈ numerals := by
  have range : 48 ≤ c.toNat ∧ c.toNat ≤ 57 := by
    simpa [Char.isDigit, UInt32.le_iff_toNat_le] using digit
  rw [← Char.ofNat_toNat c]
  have value : c.toNat = 48 ∨ c.toNat = 49 ∨ c.toNat = 50 ∨ c.toNat = 51 ∨ c.toNat = 52 ∨
      c.toNat = 53 ∨ c.toNat = 54 ∨ c.toNat = 55 ∨ c.toNat = 56 ∨ c.toNat = 57 := by omega
  rcases value with same | same | same | same | same | same | same | same | same | same <;>
    rw [same] <;> decide

/-- A decimal is legible. -/
theorem legible_integer (n : Nat) : Legible ⟨.integer, toString n⟩ := by
  rw [Nat.toString_eq_repr, Nat.repr_eq_ofList_toDigits]
  exact .integer Nat.toDigits_ne_nil
    fun c member => mem_numerals (Nat.isDigit_of_mem_toDigits (by decide) (by decide) member)

/-- What can be written is legible. -/
theorem written_covers : Covers Legible written where
  word known := by
    rcases List.mem_append.mp known with reserved | listed
    · exact .word reserved
    · exact .mark listed
  name admitted := .name admitted.1 admitted.2
  bound admitted := admitted
  integer _ := legible_integer _
  character quotable := .character quotable

variable {enabled : Feature → Bool}

/-! ## Bodies -/

/-- Statements with semicolons between them, flattened. -/
def Sequence (enabled : Feature → Bool) : Rule (List Node) := fun tokens nodes =>
  ∃ lists, Separated .semicolon (Statement enabled false) tokens lists ∧ lists.flatten = nodes

/-- Statements are rendered one by one. -/
theorem statements_eq_map (stmts : List Node) : statements stmts = stmts.map statement := by
  induction stmts with
  | nil => rfl
  | cons stmt stmts ih => rw [statements, ih, List.map_cons]

/-- A sequence is rendered if each of its statements is. -/
theorem sequence_renders {stmts : List Node}
    (each : ∀ stmt ∈ stmts,
      Renders Legible (Statement enabled false) (List.map Node.unplaced) (statement stmt) [stmt]) :
    Renders Legible (Sequence enabled) (List.map Node.unplaced) (separated .semicolon (statements stmts))
      stmts := by
  rw [statements_eq_map]
  by_cases none : stmts = []
  · subst none
    exact .done ⟨[[]], .one .empty, rfl⟩ rfl
  · have listed := separated_renders statement (fun stmt => [stmt]) written_covers
      (by decide : Kind.semicolon ∈ _) none each
    exact listed.last fun _ lists derived equal =>
      ⟨lists.flatten, ⟨lists, derived, rfl⟩, flatten_singletons equal⟩

/-- A list of statements, written as a body. -/
theorem body_renders {stmts : List Node}
    (each : ∀ stmt ∈ stmts,
      Renders Legible (Statement enabled false) (List.map Node.unplaced) (statement stmt) [stmt]) :
    Renders Legible (Body enabled) (List.map Node.unplaced) (enclosed (statements stmts)) stmts := by
  refine .word written_covers (by decide) fun _ opened => ?_
  refine (sequence_renders each).andThen fun _ _ ⟨lists, derived, flat⟩ equal => ?_
  subst flat
  exact .word written_covers (by decide) fun _ closed => .done (.enclosed opened derived closed) equal

/-! ## Case clauses -/

/-- Values of a case are rendered as the expressions they are. -/
theorem caseValue_renders {node : Node} (shape : Shape.IsCaseValue written node) :
    Renders Legible CaseValue Node.unplaced (expression 0 node) node := by
  cases shape with
  | literal written => exact (literal_renders written_covers written 0).imp .literal
  | name written => exact (name_renders written_covers written 0).imp .name

/-- An upper bound is rendered, and its absence as nothing. -/
theorem upperBound_renders {node : Node}
    (shape : node = .missing ∨ Shape.IsCaseValue written node) :
    Renders Legible UpperBound Node.unplaced (upperBound node) node := by
  rcases shape with rfl | value
  · exact .done .absent rfl
  · rw [upperBound, if_pos value.expression.present]
    refine .word written_covers (by decide) fun _ ranged => ?_
    exact (caseValue_renders value).last fun _ read derived equal =>
      ⟨read, .present ranged derived, equal⟩

/-- A clause wherever it may stand. -/
def unplacedClause (clause : Clause Node) : Clause Node :=
  ⟨clause.low.unplaced, clause.high.unplaced, clause.body.map Node.unplaced⟩

/-- Clauses lose their places one by one. -/
theorem relabelClauses_unplaced (listed : List (Clause Node)) :
    Node.relabelClauses (fun _ => {}) id listed = listed.map unplacedClause :=
  Node.relabelClauses_eq_map listed

/-- What one clause is written as. -/
def clauseLexemes (clause : Clause Node) : List Lexeme :=
  expression 0 clause.low ++ (upperBound clause.high ++ spelled .colon ::
    (enclosed (statements clause.body) ++ [spelled .semicolon]))

/-- Clauses are rendered one by one. -/
theorem clauses_flatten (listed : List (Clause Node)) :
    (clauses listed).flatten = listed.flatMap clauseLexemes := by
  induction listed with
  | nil => rfl
  | cons clause listed ih => rw [clauses, List.flatten_cons, ih, List.flatMap_cons, clauseLexemes]

/-- A clause is rendered if its body is. -/
theorem clause_renders {clause : Clause Node} (low : Shape.IsCaseValue written clause.low)
    (high : clause.high = .missing ∨ Shape.IsCaseValue written clause.high)
    (held : Renders Legible (Body enabled) (List.map Node.unplaced) (enclosed (statements clause.body))
      clause.body) :
    Renders Legible (CaseClause enabled) unplacedClause (clauseLexemes clause) clause := by
  refine (caseValue_renders low).andThen fun _ lowRead lowDerived lowEqual => ?_
  refine (upperBound_renders high).andThen fun _ highRead highDerived highEqual => ?_
  refine .word written_covers (by decide) fun _ divided => ?_
  refine held.andThen fun _ nodes bodyDerived bodyEqual => ?_
  refine .word written_covers (by decide) fun _ closed =>
    .done (.clause lowDerived highDerived divided (.compound bodyDerived) closed) ?_
  rw [unplacedClause, lowEqual, highEqual, bodyEqual]
  rfl

/-- What is left of a case is rendered if its body is, and its absence as nothing. -/
theorem otherwise_renders {stmts : List Node}
    (held : Renders Legible (Body enabled) (List.map Node.unplaced) (enclosed (statements stmts)) stmts) :
    Renders Legible (Optional (Otherwise enabled)) (List.map Node.unplaced)
      (if stmts.isEmpty then [] else spelled .otherwiseWord :: enclosed (statements stmts)) stmts := by
  by_cases none : stmts = []
  · subst none
    exact .done .absent rfl
  · rw [if_neg (by simpa using none)]
    refine .word written_covers (by decide) fun _ said => ?_
    exact held.last fun _ nodes derived equal =>
      ⟨nodes, .present (.bare said (.compound derived)), equal⟩

/-! ## Statements, one by one -/

section Forms

variable {tok : Token} {condition : Node} {body : List Node}

/-- A rule for one node gives a statement that contributes this node alone. -/
theorem statement_of_node {rule : Rule Node} {lexemes : List Lexeme} {node : Node}
    (rendered : Renders Legible rule Node.unplaced lexemes node)
    (single : ∀ {tokens read}, rule tokens read → Statement enabled false tokens [read]) :
    Renders Legible (Statement enabled false) (List.map Node.unplaced) lexemes [node] :=
  rendered.last fun _ read derived equal => ⟨[read], single derived, by simp [equal]⟩

/-- Assignments are rendered. -/
theorem assignment_renders (ordinal : enabled .ordinalFunctions = true) {node : Node}
    (shape : Shape.IsAssignment written node) :
    Renders Legible (Assignment enabled) Node.unplaced (statement node) node := by
  obtain ⟨name, value⟩ := shape
  refine (name_renders written_covers name 0).andThen fun _ leftRead leftDerived leftEqual => ?_
  refine .word written_covers (by decide) fun _ signed => ?_
  refine (expression_renders written_covers ordinal value 0).last fun _ rightRead rightDerived rightEqual => ?_
  refine ⟨_, .assign leftDerived signed rightDerived, ?_⟩
  simp only [Node.unplaced, Node.relabel] at leftEqual rightEqual ⊢
  rw [leftEqual, rightEqual]

/-- Swaps are rendered. -/
theorem exchange_renders {left right : Node} (before : Shape.IsName written left)
    (behind : Shape.IsName written right) :
    Renders Legible (Statement enabled false) (List.map Node.unplaced) (statement (.swap tok left right))
      [.swap tok left right] := by
  refine (name_renders written_covers before 0).andThen fun _ leftRead leftDerived leftEqual => ?_
  refine .word written_covers (by decide) fun _ signed => ?_
  refine (name_renders written_covers behind 0).last fun _ rightRead rightDerived rightEqual => ?_
  refine ⟨_, .exchange leftDerived signed rightDerived, ?_⟩
  simp only [Node.unplaced] at leftEqual rightEqual
  simp only [List.map_cons, List.map_nil, Node.unplaced, Node.relabel, leftEqual, rightEqual]

/-- The call of a procedure, whatever its arguments are read by. -/
theorem procedure_renders {item : Rule Node} {word : Kind} {args : List Node}
    (known : word ∈ Kind.reserved ++ marks)
    (given : Renders Legible (Separated .comma item) (List.map Node.unplaced)
      (separated .comma (expressions args)) args)
    (call : ∀ {said opening inner nodes closing}, said.kind = word → opening.kind = .openParen →
      Separated .comma item inner nodes → closing.kind = .closeParen →
      Statement enabled false (said :: opening :: (inner ++ [closing]))
        [.call said .unknown said.text nodes]) :
    Renders Legible (Statement enabled false) (List.map Node.unplaced)
      (spelled word :: grouped (separated .comma (expressions args)))
      [.call tok .unknown word.name args] := by
  refine .token (written_covers.word known) fun name said => ?_
  refine .word written_covers (by decide) fun _ opened => ?_
  refine given.andThen fun _ nodes derived equal => ?_
  refine .word written_covers (by decide) fun _ closed =>
    .done (call (congrArg Lexeme.kind said) opened derived closed) ?_
  rw [show name.text = word.name from congrArg Lexeme.text said]
  simp only [List.map_cons, List.map_nil, Node.unplaced, Node.relabel, Node.relabelAll_eq_map]
    at equal ⊢
  rw [equal]

/-- A loop that tests first is rendered if its condition and its body are. -/
theorem whileLoop_renders
    (tested : Renders Legible (Expression enabled 0) Node.unplaced (expression 0 condition) condition)
    (held : Renders Legible (Body enabled) (List.map Node.unplaced) (enclosed (statements body)) body) :
    Renders Legible (Statement enabled false) (List.map Node.unplaced)
      (statement (.whileLoop tok condition body)) [.whileLoop tok condition body] := by
  refine .word written_covers (by decide) fun _ said => ?_
  refine tested.andThen fun _ node testDerived testEqual => ?_
  refine .word written_covers (by decide) fun _ follows => ?_
  refine held.last fun _ nodes loopDerived loopEqual => ?_
  refine ⟨_, .whileLoop said testDerived follows (.compound loopDerived), ?_⟩
  simp only [List.map_cons, List.map_nil, Node.unplaced, Node.relabel, Node.relabelAll_eq_map]
    at testEqual loopEqual ⊢
  rw [testEqual, loopEqual]

/-- A loop that tests last is rendered if its body and its condition are. -/
theorem repeatLoop_renders
    (held : Renders Legible (Body enabled) (List.map Node.unplaced) (enclosed (statements body)) body)
    (tested : Renders Legible (Expression enabled 0) Node.unplaced (expression 0 condition) condition) :
    Renders Legible (Statement enabled false) (List.map Node.unplaced)
      (statement (.repeatLoop tok body condition)) [.repeatLoop tok body condition] := by
  refine .word written_covers (by decide) fun _ said => ?_
  refine held.andThen fun _ nodes loopDerived loopEqual => ?_
  refine .word written_covers (by decide) fun _ closed => ?_
  refine tested.last fun _ node testDerived testEqual => ?_
  refine ⟨_, .repeatLoop said (.one (.compound loopDerived)) closed testDerived, ?_⟩
  simp only [List.map_cons, List.map_nil, List.flatten_singleton, Node.unplaced, Node.relabel,
    Node.relabelAll_eq_map] at testEqual loopEqual ⊢
  rw [testEqual, loopEqual]

/-- A conditional. An alternative that does nothing is left out. -/
theorem conditional_renders {elseBody : List Node}
    (tested : Renders Legible (Expression enabled 0) Node.unplaced (expression 0 condition) condition)
    (held : Renders Legible (Body enabled) (List.map Node.unplaced) (enclosed (statements body)) body)
    (failed : Renders Legible (Body enabled) (List.map Node.unplaced) (enclosed (statements elseBody))
      elseBody) :
    Renders Legible (Statement enabled false) (List.map Node.unplaced)
      (statement (.conditional tok condition body elseBody))
      [.conditional tok condition body elseBody] := by
  -- Up to the `else` the two forms are the same, and the production is chosen by what follows.
  refine .word written_covers (by decide) fun _ said => ?_
  refine tested.andThen fun _ node testDerived testEqual => ?_
  refine .word written_covers (by decide) fun _ follows => ?_
  refine held.andThen fun branch nodes branchDerived branchEqual => ?_
  by_cases none : elseBody = []
  · subst none
    have short : Statement enabled false _ _ :=
      .ifThen said testDerived follows (.compound branchDerived)
    rw [← List.append_nil branch] at short
    refine .done short ?_
    simp only [List.map_cons, List.map_nil, Node.unplaced, Node.relabel, Node.relabelAll_eq_map]
      at testEqual branchEqual ⊢
    rw [testEqual, branchEqual]
  · rw [if_neg (by simpa using none)]
    refine .word written_covers (by decide) fun _ alternates => ?_
    refine failed.last fun _ others otherDerived otherEqual => ?_
    refine ⟨_, .ifThenElse said testDerived follows (.compound branchDerived) alternates
      (.compound otherDerived), ?_⟩
    simp only [List.map_cons, List.map_nil, Node.unplaced, Node.relabel, Node.relabelAll_eq_map]
      at testEqual branchEqual otherEqual ⊢
    rw [testEqual, branchEqual, otherEqual]

/-- A loop that counts is rendered if its head and its body are. -/
theorem forLoop_renders {start step : Node}
    (begun : Renders Legible (Assignment enabled) Node.unplaced (statement start) start)
    (tested : Renders Legible (Expression enabled 0) Node.unplaced (expression 0 condition) condition)
    (stepped : Renders Legible (Assignment enabled) Node.unplaced (statement step) step)
    (held : Renders Legible (Body enabled) (List.map Node.unplaced) (enclosed (statements body)) body) :
    Renders Legible (Statement enabled false) (List.map Node.unplaced)
      (statement (.forLoop tok start condition step body))
      [.forLoop tok start condition step body] := by
  refine .word written_covers (by decide) fun _ said => ?_
  refine .word written_covers (by decide) fun _ opened => ?_
  refine begun.andThen fun _ firstRead firstDerived firstEqual => ?_
  refine .word written_covers (by decide) fun _ divided => ?_
  refine tested.andThen fun _ node testDerived testEqual => ?_
  refine .word written_covers (by decide) fun _ divided' => ?_
  refine stepped.andThen fun _ lastRead lastDerived lastEqual => ?_
  refine .word written_covers (by decide) fun _ closed => ?_
  refine held.last fun _ nodes loopDerived loopEqual => ?_
  refine ⟨_, .forLoop said opened firstDerived divided testDerived divided' lastDerived closed
    (.compound loopDerived), ?_⟩
  simp only [List.map_cons, List.map_nil, Node.unplaced, Node.relabel, Node.relabelAll_eq_map]
    at firstEqual testEqual lastEqual loopEqual ⊢
  rw [firstEqual, testEqual, lastEqual, loopEqual]

/-- A case is rendered if its selector, its clauses and what is left are. -/
theorem caseOf_renders {selector : Node} {listed : List (Clause Node)} {otherwise : List Node}
    (selected : Renders Legible (Expression enabled 0) Node.unplaced (expression 0 selector) selector)
    (each : ∀ clause ∈ listed, Renders Legible (CaseClause enabled) unplacedClause (clauseLexemes clause) clause)
    (held : Renders Legible (Body enabled) (List.map Node.unplaced) (enclosed (statements otherwise))
      otherwise) :
    Renders Legible (Statement enabled false) (List.map Node.unplaced)
      (statement (.caseOf tok selector listed otherwise)) [.caseOf tok selector listed otherwise] := by
  have clauses := repeated_renders clauseLexemes id each
  rw [List.map_id, ← clauses_flatten] at clauses
  refine .word written_covers (by decide) fun _ said => ?_
  refine selected.andThen fun _ node choiceDerived choiceEqual => ?_
  refine .word written_covers (by decide) fun _ follows => ?_
  refine clauses.andThen fun _ clauseNodes innerDerived innerEqual => ?_
  refine (otherwise_renders held).andThen fun _ restNodes restDerived restEqual => ?_
  refine .word written_covers (by decide) fun _ closed =>
    .done (.caseOf said choiceDerived follows innerDerived restDerived closed) ?_
  simp only [List.map_cons, List.map_nil, Node.unplaced, Node.relabel, Node.relabelAll_eq_map,
    relabelClauses_unplaced] at choiceEqual restEqual ⊢
  rw [choiceEqual, innerEqual, restEqual]

/-- A return is rendered if its value is. -/
theorem returnOf_renders {value : Node}
    (given : Renders Legible (Expression enabled 0) Node.unplaced (expression 0 value) value) :
    Renders Legible (Statement enabled false) (List.map Node.unplaced) (statement (.returnOf tok value))
      [.returnOf tok value] := by
  refine .word written_covers (by decide) fun _ said => ?_
  refine given.last fun _ node derived equal => ⟨_, .returnOf said derived, ?_⟩
  simp only [List.map_cons, List.map_nil, Node.unplaced, Node.relabel] at equal ⊢
  rw [equal]

end Forms

/-- Every statement that can be written is derived.

Proof: by induction on the statement. The lists of statements in it are bodies, whose members are
derived by induction. -/
theorem statement_renders (ordinal : enabled .ordinalFunctions = true) {stmt : Node}
    (shape : Shape.IsStatement written stmt) :
    Renders Legible (Statement enabled false) (List.map Node.unplaced) (statement stmt) [stmt] := by
  have value {node : Node} (shape : Shape.IsExpression written node) :
      Renders Legible (Expression enabled 0) Node.unplaced (expression 0 node) node :=
    expression_renders written_covers ordinal shape 0
  induction shape with
  | assignment assigned => exact statement_of_node (assignment_renders ordinal assigned) .assignment
  | exchange before behind => exact exchange_renders before behind
  | @output tok callee args named some given =>
    obtain rfl : callee = Kind.outputWord.name := named
    rw [statement, if_pos rfl]
    exact procedure_renders (by decide)
      (arguments_renders written_covers some fun arg member => value (given arg member)) .output
  | @read tok callee args named some given =>
    obtain rfl : callee = Kind.readWord.name := named
    rw [statement, if_neg (by decide)]
    exact procedure_renders (by decide)
      (arguments_renders written_covers some fun arg member =>
        name_renders written_covers (given arg member) 0) .read
  | conditional tested held failed ihHeld ihFailed =>
    exact conditional_renders (value tested) (body_renders ihHeld) (body_renders ihFailed)
  | forLoop begun tested stepped held ihHeld =>
    exact forLoop_renders (assignment_renders ordinal begun) (value tested)
      (assignment_renders ordinal stepped) (body_renders ihHeld)
  | whileLoop tested held ihHeld => exact whileLoop_renders (value tested) (body_renders ihHeld)
  | repeatLoop held tested ihHeld => exact repeatLoop_renders (body_renders ihHeld) (value tested)
  | caseOf selected lows highs held remaining ihHeld ihRemaining =>
    refine caseOf_renders (value selected) (fun clause member => ?_) (body_renders ihRemaining)
    exact clause_renders (lows clause member) (highs clause member)
      (body_renders (ihHeld clause member))
  | returnOf given => exact returnOf_renders (value given)

end WinZig.Rendering
