import WinZig.Proofs.Typing.Frames

/-!
# Checking programs that stand elsewhere

Checking looks at names and types, not at where they stand. When the tokens of a program are moved,
the checked program is the checked one with its tokens moved, and complaints and notices are the same
ones at the moved tokens.

A complaint also has a place, and it is always a place of its token: the start, or the end where a
character literal is complained about. Symbols carry the tokens of their declarations, but nothing
that is visible depends on them. The symbols there are before any declaration stay where they are.
-/

namespace WinZig

/-- A complaint moved with its token. It stays at the start of the token, or at its end. -/
structure Diagnostic.MovesTo (onToken : Token → Token) (before behind : Diagnostic) : Prop where
  token : behind.token = onToken before.token
  complaint : behind.complaint = before.complaint
  position : before.position = before.token.start ∧ behind.position = behind.token.start ∨
    before.position = before.token.finish ∧ behind.position = behind.token.finish

/-- A symbol wherever it was declared. -/
def Symbol.unplaced (sym : Symbol) : Symbol := { sym with tok := {} }

/-- A symbol declared elsewhere. -/
def Symbol.moved (onToken : Token → Token) (sym : Symbol) : Symbol :=
  { sym with tok := onToken sym.tok }

/-- A scope wherever its symbols were declared. -/
def Scope.unplaced (scope : Scope) : Scope where
  globals := scope.globals.map Symbol.unplaced
  locals := scope.locals.map Symbol.unplaced
  owner := scope.owner

namespace Typing

open Checker

variable {onToken : Token → Token} {scope scope' : Scope}

/-- The complaints of two lists are the same, with moved tokens. -/
abbrev ComplaintsMove (onToken : Token → Token) : List Diagnostic → List Diagnostic → Prop :=
  List.Forall₂ (Diagnostic.MovesTo onToken)

/-! ## Complaints -/

/-- Complaints that move one by one move together. -/
theorem ComplaintsMove.append {before before' behind behind' : List Diagnostic}
    (first : ComplaintsMove onToken before before') (second : ComplaintsMove onToken behind behind') :
    ComplaintsMove onToken (before ++ behind) (before' ++ behind') := List.rel_append first second

/-- A complaint about something present moves with it. -/
theorem movesTo_complain (onToken : Token → Token) (node : Node) (present : node.isPresent = true)
    (complaint : Complaint) :
    (node.complain complaint).MovesTo onToken ((node.moved onToken).complain complaint) where
  token := Node.token_moved present
  complaint := rfl
  position := by
    cases node with
    | missing => exact absurd present (by decide)
    | character => exact .inr ⟨rfl, rfl⟩
    | _ => exact .inl ⟨rfl, rfl⟩

/-- A complaint made for one reason moves if it does when there is the reason. -/
theorem complaintsMove_complainIf {condition : Bool} {before behind : Diagnostic}
    (moves : condition = true → before.MovesTo onToken behind) :
    ComplaintsMove onToken (complainIf condition before) (complainIf condition behind) := by
  cases condition with
  | false => exact .nil
  | true => exact .cons (moves rfl) .nil

/-- The complaint of an operator moves with its node. -/
theorem complaintsMove_toList (onToken : Token → Token) (node : Node)
    (present : node.isPresent = true) (complaint : Option Complaint) :
    ComplaintsMove onToken (complaint.map node.complain).toList
      (complaint.map (node.moved onToken).complain).toList := by
  cases complaint with
  | none => exact .nil
  | some only => exact .cons (movesTo_complain onToken node present only) .nil

/-! ## Scopes -/

section Alike

variable (alike : scope'.unplaced = scope.unplaced)

include alike

/-- Where symbols were declared does not matter to what names mean. -/
theorem find?_unplaced (callable : Bool) (name : String) :
    (scope'.find? callable name).map Symbol.unplaced =
      (scope.find? callable name).map Symbol.unplaced := by
  have found (scope : Scope) : (scope.find? callable name).map Symbol.unplaced =
      (scope.unplaced.locals ++ scope.unplaced.globals).find? (Scope.isNamed callable name) := by
    rw [Scope.unplaced, ← List.map_append, List.find?_map]
    rfl
  rw [found, found, alike]

/-- A name means nothing in both scopes, or symbols that differ in where they were declared only. -/
theorem find?_alike (callable : Bool) (name : String) :
    scope.find? callable name = none ∧ scope'.find? callable name = none ∨
      ∃ sym sym', scope.find? callable name = some sym ∧ scope'.find? callable name = some sym' ∧
        sym'.role = sym.role ∧ sym'.type = sym.type ∧ sym'.params = sym.params := by
  have same := find?_unplaced alike callable name
  cases found : scope.find? callable name with
  | none =>
    rw [found, Option.map_none, Option.map_eq_none_iff] at same
    exact .inl ⟨rfl, same⟩
  | some sym =>
    rw [found, Option.map_some, Option.map_eq_some_iff] at same
    obtain ⟨sym', found', equal⟩ := same
    obtain ⟨-, role, type, -, params, -⟩ := Symbol.mk.inj equal
    exact .inr ⟨sym, sym', rfl, found', role, type, params⟩

/-- Rules for calls do not look at places. -/
theorem callRule_unplaced (callee : String) (count : Nat) :
    callRule scope' callee count = callRule scope callee count := by
  unfold callRule Scope.findFunction?
  rcases find?_alike alike true callee with
    ⟨found, found'⟩ | ⟨sym, sym', found, found', role, type, params⟩
  · rw [found, found']
  · simp only [found, found', role, type, params]

end Alike

/-! ## Visits -/

/-- A visit moved with its node. -/
structure VisitMoves (onToken : Token → Token) (before behind : Visited) : Prop where
  node : behind.node = before.node.moved onToken
  tag : behind.tag = before.tag
  diagnostics : ComplaintsMove onToken before.diagnostics behind.diagnostics

/-- What has a known type is present. -/
theorem isPresent_of_tag {node : Node} (known : (visit scope node).tag ≠ .unknown) :
    node.isPresent = true := by
  cases node with
  | missing => exact absurd rfl known
  | _ => rfl

section Visits

/-- Visits of nodes as they stood and of the moved nodes. -/
def Move (onToken : Token → Token) (scope scope' : Scope) (node : Node) : Prop :=
  VisitMoves onToken (visit scope node) (visit scope' (node.moved onToken))

variable {nodes : List Node}

/-- Nodes that move are visited as moved ones. -/
theorem nodesOf_moved (each : ∀ node ∈ nodes, Move onToken scope scope' node) :
    nodesOf (visitAll scope' (nodes.map (Node.moved onToken))) =
      (nodesOf (visitAll scope nodes)).map (Node.moved onToken) := by
  simp only [nodesOf, visitAll_eq_map, List.map_map]
  exact List.map_congr_left fun node member => (each node member).node

/-- Complaints about nodes that move do so too. -/
theorem complaintsMove_diagnosticsOf (each : ∀ node ∈ nodes, Move onToken scope scope' node) :
    ComplaintsMove onToken (diagnosticsOf (visitAll scope nodes))
      (diagnosticsOf (visitAll scope' (nodes.map (Node.moved onToken)))) := by
  induction nodes with
  | nil => exact .nil
  | cons node nodes inductionHypothesis =>
    rw [List.forall_mem_cons] at each
    exact each.1.diagnostics.append (inductionHypothesis each.2)

/-- A value is complained about only if its type is known, so that it is present. -/
theorem complaintsMove_value {node : Node} (moves : Move onToken scope scope' node)
    (condition : Ty → Bool) (complaint : Ty → Complaint) (silent : condition .unknown = false) :
    ComplaintsMove onToken
      (complainIf (condition (visit scope node).tag)
        (node.complain (complaint (visit scope node).tag)))
      (complainIf (condition (visit scope' (node.moved onToken)).tag)
        ((node.moved onToken).complain (complaint (visit scope' (node.moved onToken)).tag))) := by
  rw [moves.tag]
  apply complaintsMove_complainIf
  intro differs
  have known : (visit scope node).tag ≠ .unknown := by
    intro unknown
    rw [unknown, silent] at differs
    exact Bool.false_ne_true differs
  exact movesTo_complain onToken node (isPresent_of_tag known) _

/-- Complaints about arguments, by induction on the parameters they are held against. -/
theorem complaintsMove_arguments (callee : String) (params : List Ty)
    (each : ∀ node ∈ nodes, Move onToken scope scope' node) :
    ComplaintsMove onToken (argumentComplaints callee params nodes (visitAll scope nodes))
      (argumentComplaints callee params (nodes.map (Node.moved onToken))
        (visitAll scope' (nodes.map (Node.moved onToken)))) := by
  induction params generalizing nodes with
  | nil => exact .nil
  | cons wanted params inductionHypothesis =>
    cases nodes with
    | nil => exact .nil
    | cons node nodes =>
      rw [List.forall_mem_cons] at each
      have own := complaintsMove_value each.1 (fun found => found != .unknown && found != wanted)
        (fun found => .argumentType wanted found callee) (by simp)
      exact own.append (inductionHypothesis each.2)

/-- Complaints about clauses, and their nodes, by induction on the clauses. -/
theorem clauses_moved (selector : Ty) {clauses : List (Clause Node)}
    (each : ∀ node ∈ clauses.flatMap (fun clause => clause.low :: clause.high :: clause.body),
      Move onToken scope scope' node) :
    (visitClauses scope' selector (clauses.map (Clause.moved onToken))).map Prod.fst =
        ((visitClauses scope selector clauses).map Prod.fst).map (Clause.moved onToken) ∧
      ComplaintsMove onToken ((visitClauses scope selector clauses).flatMap Prod.snd)
        ((visitClauses scope' selector (clauses.map (Clause.moved onToken))).flatMap Prod.snd) := by
  induction clauses with
  | nil => exact ⟨rfl, .nil⟩
  | cons clause clauses inductionHypothesis =>
    obtain ⟨low, high, body⟩ := clause
    simp only [List.flatMap_cons, List.cons_append, List.forall_mem_cons, List.forall_mem_append]
      at each
    obtain ⟨start, finish, stmts, others⟩ := each
    obtain ⟨nodes, complaints⟩ := inductionHypothesis others
    have own {node : Node} (moves : Move onToken scope scope' node)
        (complaint : Ty → Ty → Complaint) : ComplaintsMove onToken
          (caseComplaint selector node (visit scope node) complaint)
          (caseComplaint selector (node.moved onToken) (visit scope' (node.moved onToken))
            complaint) :=
      complaintsMove_value moves (disagree · selector) (complaint · selector) rfl
    constructor
    · simp only [List.map_cons, visitClauses_cons, Clause.moved, start.node, finish.node,
        nodesOf_moved stmts, nodes]
    · have stmts := complaintsMove_diagnosticsOf stmts
      apply ComplaintsMove.append (.append _ stmts) complaints
      have present : (high.moved onToken).isPresent = high.isPresent := Node.isPresent_relabel high
      simp only [present]
      exact ((start.diagnostics.append (own start _)).append finish.diagnostics).append
        (own finish _)

variable (alike : scope'.unplaced = scope.unplaced)

include alike

/-- Names move. -/
theorem move_name (tok : Token) (tag : Ty) (name : String) :
    Move onToken scope scope' (.name tok tag name) := by
  have own (complaint : Complaint) : ((Node.name tok tag name).complain complaint).MovesTo onToken
      ((Node.name (onToken tok) tag name).complain complaint) := movesTo_complain onToken _ rfl complaint
  change VisitMoves onToken (visit scope (.name tok tag name))
    (visit scope' (.name (onToken tok) tag name))
  rw [visit_name, visit_name, Scope.findVariable?, Scope.findVariable?]
  rcases find?_alike alike false name with ⟨found, found'⟩ | ⟨sym, sym', found, found', -, type, -⟩
  · rw [found, found']
    exact ⟨rfl, rfl, .cons (own _) .nil⟩
  · simp only [found, found', type]
    exact ⟨rfl, rfl, .nil⟩

/-- Calls move with their arguments. -/
theorem move_call (tok : Token) (tag : Ty) (callee : String)
    (each : ∀ node ∈ nodes, Move onToken scope scope' node) :
    Move onToken scope scope' (.call tok tag callee nodes) := by
  have own (complaint : Complaint) :
      ((Node.call tok tag callee nodes).complain complaint).MovesTo onToken
        (((Node.call tok tag callee nodes).moved onToken).complain complaint) :=
    movesTo_complain onToken _ rfl complaint
  have parts := nodesOf_moved each
  have complaints := complaintsMove_diagnosticsOf each
  have written (result : Ty) : Node.call (onToken tok) result callee
        (nodesOf (visitAll scope' (nodes.map (Node.moved onToken)))) =
      (Node.call tok result callee (nodesOf (visitAll scope nodes))).moved onToken := by
    rw [Node.moved_call, parts]
  unfold Move
  rw [Node.moved_call] at own ⊢
  rw [visit_call, visit_call, List.length_map, callRule_unplaced alike]
  cases callRule scope callee nodes.length with
  | undeclared => exact ⟨(Node.moved_call ..).symm, rfl, .cons (own _) .nil⟩
  | wrongCount result => exact ⟨(Node.moved_call ..).symm, rfl, .cons (own _) .nil⟩
  | anyArguments result => exact ⟨written result, rfl, complaints⟩
  | matched result params =>
    exact ⟨written result, rfl, complaints.append (complaintsMove_arguments callee params each)⟩

omit alike in
/-- The complaint about a condition moves with its statement. -/
theorem complaintsMove_condition {condition : Node} (stmt : Node)
    (present : stmt.isPresent = true) (kind : Conditioned) (moves : Move onToken scope scope' condition) :
    ComplaintsMove onToken (conditionComplaint stmt kind (visit scope condition))
      (conditionComplaint (stmt.moved onToken) kind (visit scope' (condition.moved onToken))) := by
  unfold conditionComplaint
  rw [moves.tag]
  exact complaintsMove_complainIf fun _ => movesTo_complain onToken stmt present _

/-- The complaint about a return moves with it. -/
theorem complaintsMove_return {value : Node} (stmt : Node) (present : stmt.isPresent = true)
    (moves : Move onToken scope scope' value) :
    ComplaintsMove onToken (returnComplaint scope stmt (visit scope value))
      (returnComplaint scope' (stmt.moved onToken) (visit scope' (value.moved onToken))) := by
  have owner : scope'.unplaced.owner = scope.unplaced.owner := congrArg Scope.owner alike
  unfold returnComplaint
  rw [moves.tag, show scope'.owner = scope.owner from owner]
  cases scope.owner with
  | none => exact .nil
  | some owner => exact complaintsMove_complainIf fun _ => movesTo_complain onToken stmt present _

/-- Visiting a moved node is visiting the node and moving what comes of it, by induction on the
children of the node. -/
theorem move_visit (node : Node) : Move onToken scope scope' node := by
  induction node using Node.children_induction with
  | step node inductionHypothesis =>
    unfold Move
    cases node with
    | missing | integer | boolean | character => exact ⟨rfl, rfl, .nil⟩
    | name tok tag name => exact move_name alike tok tag name
    | call tok tag callee args => exact move_call alike tok tag callee inductionHypothesis
    | binary tok tag op left right =>
      have first := inductionHypothesis left (by simp [Node.children])
      have second := inductionHypothesis right (by simp [Node.children])
      have own := complaintsMove_toList onToken (.binary tok tag op left right) rfl
      rw [Node.moved_binary] at own ⊢
      simp only [visit_binary, first.tag, second.tag, first.node, second.node]
      exact ⟨rfl, rfl, (first.diagnostics.append second.diagnostics).append (own _)⟩
    | unary tok tag op operand =>
      have only := inductionHypothesis operand (by simp [Node.children])
      have own := complaintsMove_toList onToken (.unary tok tag op operand) rfl
      rw [Node.moved_unary] at own ⊢
      simp only [visit_unary, only.tag, only.node]
      exact ⟨rfl, rfl, only.diagnostics.append (own _)⟩
    | assign tok target value =>
      have first := inductionHypothesis target (by simp [Node.children])
      have second := inductionHypothesis value (by simp [Node.children])
      have own := movesTo_complain onToken (.assign tok target value) rfl
      rw [Node.moved_assign] at own ⊢
      simp only [visit_assign, first.tag, second.tag, first.node, second.node]
      exact ⟨rfl, rfl, (first.diagnostics.append second.diagnostics).append
        (complaintsMove_complainIf fun _ => own _)⟩
    | swap tok left right =>
      have first := inductionHypothesis left (by simp [Node.children])
      have second := inductionHypothesis right (by simp [Node.children])
      have own := movesTo_complain onToken (.swap tok left right) rfl
      rw [Node.moved_swap] at own ⊢
      simp only [visit_swap, first.tag, second.tag, first.node, second.node]
      exact ⟨rfl, rfl, (first.diagnostics.append second.diagnostics).append
        (complaintsMove_complainIf fun _ => own _)⟩
    | conditional tok condition thenBody elseBody =>
      have tested := inductionHypothesis condition (by simp [Node.children])
      have chosen : ∀ node ∈ thenBody, Move onToken scope scope' node := fun node member =>
        inductionHypothesis node (by simp [Node.children, member])
      have others : ∀ node ∈ elseBody, Move onToken scope scope' node := fun node member =>
        inductionHypothesis node (by simp [Node.children, member])
      have own := complaintsMove_condition (.conditional tok condition thenBody elseBody) rfl
        .ifStatement tested
      rw [Node.moved_conditional] at own ⊢
      simp only [visit_conditional, tested.node, nodesOf_moved chosen, nodesOf_moved others]
      exact ⟨(Node.moved_conditional ..).symm, rfl,
        ((tested.diagnostics.append own).append (complaintsMove_diagnosticsOf chosen)).append
          (complaintsMove_diagnosticsOf others)⟩
    | forLoop tok start condition step body =>
      have first := inductionHypothesis start (by simp [Node.children])
      have tested := inductionHypothesis condition (by simp [Node.children])
      have last := inductionHypothesis step (by simp [Node.children])
      have stmts : ∀ node ∈ body, Move onToken scope scope' node := fun node member =>
        inductionHypothesis node (by simp [Node.children, member])
      have own := complaintsMove_condition (.forLoop tok start condition step body) rfl
        .forStatement tested
      rw [Node.moved_forLoop] at own ⊢
      simp only [visit_forLoop, first.node, tested.node, last.node, nodesOf_moved stmts]
      exact ⟨(Node.moved_forLoop ..).symm, rfl,
        (((first.diagnostics.append tested.diagnostics).append own).append last.diagnostics).append
          (complaintsMove_diagnosticsOf stmts)⟩
    | whileLoop tok condition body =>
      have tested := inductionHypothesis condition (by simp [Node.children])
      have stmts : ∀ node ∈ body, Move onToken scope scope' node := fun node member =>
        inductionHypothesis node (by simp [Node.children, member])
      have own := complaintsMove_condition (.whileLoop tok condition body) rfl .whileStatement tested
      rw [Node.moved_whileLoop] at own ⊢
      simp only [visit_whileLoop, tested.node, nodesOf_moved stmts]
      exact ⟨(Node.moved_whileLoop ..).symm, rfl,
        (tested.diagnostics.append own).append (complaintsMove_diagnosticsOf stmts)⟩
    | repeatLoop tok body condition =>
      have tested := inductionHypothesis condition (by simp [Node.children])
      have stmts : ∀ node ∈ body, Move onToken scope scope' node := fun node member =>
        inductionHypothesis node (by simp [Node.children, member])
      have own := complaintsMove_condition (.repeatLoop tok body condition) rfl .repeatStatement
        tested
      rw [Node.moved_repeatLoop] at own ⊢
      simp only [visit_repeatLoop, tested.node, nodesOf_moved stmts]
      exact ⟨(Node.moved_repeatLoop ..).symm, rfl,
        ((complaintsMove_diagnosticsOf stmts).append tested.diagnostics).append own⟩
    | caseOf tok selector clauses otherwise =>
      have chosen := inductionHypothesis selector (by simp [Node.children])
      have others : ∀ node ∈ otherwise, Move onToken scope scope' node := fun node member =>
        inductionHypothesis node (by simp [Node.children, member])
      have within : ∀ node ∈ clauses.flatMap (fun clause => clause.low :: clause.high :: clause.body),
          Move onToken scope scope' node := fun node member =>
        inductionHypothesis node (List.mem_append_left _ (List.mem_cons_of_mem _ member))
      obtain ⟨parts, complaints⟩ := clauses_moved (visit scope selector).tag within
      have own : ComplaintsMove onToken
          (complainIf selector.isLiteral (selector.complain .literalSelector))
          (complainIf (selector.moved onToken).isLiteral
            ((selector.moved onToken).complain .literalSelector)) := by
        rw [Node.isLiteral_moved]
        apply complaintsMove_complainIf
        intro literal
        apply movesTo_complain
        cases selector with
        | missing => exact literal
        | _ => rfl
      rw [Node.moved_caseOf]
      simp only [visit_caseOf, chosen.node, chosen.tag, parts, nodesOf_moved others]
      exact ⟨(Node.moved_caseOf ..).symm, rfl,
        ((own.append chosen.diagnostics).append complaints).append
          (complaintsMove_diagnosticsOf others)⟩
    | returnOf tok value =>
      have only := inductionHypothesis value (by simp [Node.children])
      have own := complaintsMove_return alike (.returnOf tok value) rfl only
      rw [Node.moved_returnOf] at own ⊢
      simp only [visit_returnOf, only.node]
      exact ⟨rfl, rfl, only.diagnostics.append own⟩

end Visits

/-! ## Programs -/

/-- The state of checking moved with the tokens of what is checked. -/
structure CheckerMoves (onToken : Token → Token) (before behind : Checker) : Prop where
  scope : behind.scope.unplaced = before.scope.unplaced
  diagnostics : ComplaintsMove onToken before.diagnostics behind.diagnostics
  shown : behind.shown = before.shown
  notices : behind.notices = before.notices.map (Notice.moved onToken)

section Programs

variable {checker checker' : Checker}

/-- Whether something is declared does not depend on where it is. -/
theorem any_unplaced {symbols symbols' : List Symbol}
    (same : symbols'.map Symbol.unplaced = symbols.map Symbol.unplaced) (name : String) :
    symbols'.any (Scope.isNamed false name) = symbols.any (Scope.isNamed false name) := by
  have unplaced (symbols : List Symbol) : symbols.any (Scope.isNamed false name) =
      (symbols.map Symbol.unplaced).any (Scope.isNamed false name) := by
    rw [List.any_map]
    rfl
  rw [unplaced, unplaced symbols, same]

/-- Whether a name is a global does not depend on places. -/
theorem isGlobalVariable_unplaced {scope scope' : Scope} (alike : scope'.unplaced = scope.unplaced)
    (name : String) : isGlobalVariable scope' name = isGlobalVariable scope name := by
  have unplaced (scope : Scope) : isGlobalVariable scope name =
      ((scope.find? false name).map Symbol.unplaced).any fun sym => sym.role = .var := by
    rw [Option.any_map]
    rfl
  rw [unplaced, unplaced scope, find?_unplaced alike]

/-- Adding globals commutes with forgetting places. -/
theorem unplaced_foldl_addGlobal (symbols : List Symbol) (scope : Scope) :
    (symbols.foldl Scope.addGlobal scope).unplaced =
      (symbols.map Symbol.unplaced).foldl Scope.addGlobal scope.unplaced := by
  simp [foldl_addGlobal, Scope.unplaced]

/-- Adding locals commutes with forgetting places. -/
theorem unplaced_foldl_addLocal (symbols : List Symbol) (scope : Scope) :
    (symbols.foldl Scope.addLocal scope).unplaced =
      (symbols.map Symbol.unplaced).foldl Scope.addLocal scope.unplaced := by
  simp [foldl_addLocal, Scope.unplaced]

/-- Members of a moved type are the same but for their places. -/
theorem membersOf_moved (definition : TypeDef) :
    (Symbol.membersOf (definition.moved onToken)).map Symbol.unplaced =
      (Symbol.membersOf definition).map Symbol.unplaced := by
  simp [Symbol.membersOf, TypeDef.moved, Symbol.unplaced]

namespace CheckerMoves

/-- Checkers that move still do after a complaint. -/
theorem complain (moves : CheckerMoves onToken checker checker') (declared : Variable)
    (complaint : Complaint) :
    CheckerMoves onToken (checker.complain declared complaint)
      (checker'.complain (declared.moved onToken) complaint) where
  scope := moves.scope
  diagnostics := moves.diagnostics.append (.cons ⟨rfl, rfl, .inl ⟨rfl, rfl⟩⟩ .nil)
  shown := moves.shown
  notices := moves.notices

/-- Checkers that move still do after a remark. -/
theorem note (moves : CheckerMoves onToken checker checker') (tok : Token) (remark : Remark) :
    CheckerMoves onToken (checker.note tok remark) (checker'.note (onToken tok) remark) where
  scope := moves.scope
  diagnostics := moves.diagnostics
  shown := moves.shown
  notices := by
    simp only [Checker.note, moves.notices, moves.shown, List.map_append, Notice.raised_moved]

/-- A run over declarations, from what one declaration does. -/
theorem foldl {α : Type} {step : Checker → α → Checker} {onItem : α → α}
    (one : ∀ checker checker' item, CheckerMoves onToken checker checker' →
      CheckerMoves onToken (step checker item) (step checker' (onItem item)))
    (items : List α) (moves : CheckerMoves onToken checker checker') :
    CheckerMoves onToken (items.foldl step checker) ((items.map onItem).foldl step checker') := by
  induction items generalizing checker checker' with
  | nil => exact moves
  | cons item items inductionHypothesis => exact inductionHypothesis (one _ _ item moves)

/-- Checkers that move still do after a type. -/
theorem declareType (moves : CheckerMoves onToken checker checker') (definition : TypeDef) :
    CheckerMoves onToken (checker.declareType definition)
      (checker'.declareType (definition.moved onToken)) where
  scope := by
    simp only [Checker.declareType, unplaced_foldl_addGlobal, membersOf_moved, moves.scope]
  diagnostics := moves.diagnostics
  shown := moves.shown
  notices := moves.notices

/-- Checkers that move still do after a local type. -/
theorem declareLocalType (moves : CheckerMoves onToken checker checker') (definition : TypeDef) :
    CheckerMoves onToken (checker.declareLocalType definition)
      (checker'.declareLocalType (definition.moved onToken)) where
  scope := by
    simp only [Checker.declareLocalType, unplaced_foldl_addLocal, membersOf_moved, moves.scope]
  diagnostics := moves.diagnostics
  shown := moves.shown
  notices := moves.notices

/-- A further symbol of the program, with a token that may be elsewhere. -/
theorem addGlobal (moves : CheckerMoves onToken checker checker') {sym sym' : Symbol}
    (same : sym'.unplaced = sym.unplaced) :
    CheckerMoves onToken { checker with scope := checker.scope.addGlobal sym }
      { checker' with scope := checker'.scope.addGlobal sym' } where
  scope := by
    have added (scope : Scope) (sym : Symbol) :
        (scope.addGlobal sym).unplaced = scope.unplaced.addGlobal sym.unplaced := rfl
    rw [added, added, moves.scope, same]
  diagnostics := moves.diagnostics
  shown := moves.shown
  notices := moves.notices

/-- A further symbol of the function around, with a token that may be elsewhere. -/
theorem addLocal (moves : CheckerMoves onToken checker checker') {sym sym' : Symbol}
    (same : sym'.unplaced = sym.unplaced) :
    CheckerMoves onToken { checker with scope := checker.scope.addLocal sym }
      { checker' with scope := checker'.scope.addLocal sym' } where
  scope := by
    have added (scope : Scope) (sym : Symbol) :
        (scope.addLocal sym).unplaced = scope.unplaced.addLocal sym.unplaced := rfl
    rw [added, added, moves.scope, same]
  diagnostics := moves.diagnostics
  shown := moves.shown
  notices := moves.notices

/-- Checkers that move still do after a global. -/
theorem declareGlobal (moves : CheckerMoves onToken checker checker') (declared : Variable) :
    CheckerMoves onToken (checker.declareGlobal declared)
      (checker'.declareGlobal (declared.moved onToken)) := by
  have name : (declared.moved onToken).name = declared.name := rfl
  have taken := any_unplaced (congrArg Scope.globals moves.scope) declared.name
  unfold Checker.declareGlobal
  rw [name, taken]
  by_cases discarded : declared.name = discard
  · rw [if_pos discarded, if_pos discarded]
    exact moves
  · rw [if_neg discarded, if_neg discarded]
    split
    · exact (moves.complain declared _).addGlobal rfl
    · exact moves.addGlobal rfl

/-- Checkers that move still do after a local. -/
theorem declareLocal (role : Role) (moves : CheckerMoves onToken checker checker')
    (declared : Variable) :
    CheckerMoves onToken (checker.declareLocal role declared)
      (checker'.declareLocal role (declared.moved onToken)) := by
  have name : (declared.moved onToken).name = declared.name := rfl
  have taken := any_unplaced (congrArg Scope.locals moves.scope) declared.name
  have hidden := isGlobalVariable_unplaced moves.scope declared.name
  unfold Checker.declareLocal
  rw [name, taken, hidden]
  split
  · exact (moves.complain declared _).addLocal rfl
  · split
    · exact (moves.note declared.tok _).addLocal rfl
    · exact moves.addLocal rfl

/-- Checkers that move check a moved body to the moved one. -/
theorem checkBody (moves : CheckerMoves onToken checker checker') (body : List Node) :
    (checker'.checkBody (body.map (Node.moved onToken))).1 =
        (checker.checkBody body).1.map (Node.moved onToken) ∧
      CheckerMoves onToken (checker.checkBody body).2
        (checker'.checkBody (body.map (Node.moved onToken))).2 := by
  have each : ∀ node ∈ body, Move onToken checker.scope checker'.scope node :=
    fun node _ => move_visit moves.scope node
  refine ⟨nodesOf_moved each, moves.scope, ?_, moves.shown, moves.notices⟩
  exact moves.diagnostics.append (complaintsMove_diagnosticsOf each)

end CheckerMoves

/-- Moving keeps whether there is a return. -/
theorem hasReturn_moved (body : List Node) :
    hasReturn (body.map (Node.moved onToken)) = hasReturn body := hasReturn_relabel body

namespace CheckerMoves

/-- Into a function, and through its declarations. -/
theorem enter (moves : CheckerMoves onToken checker checker') (function : Function) :
    CheckerMoves onToken (entered checker function) (entered checker' (function.moved onToken)) := by
  have inside : CheckerMoves onToken
      { checker with scope := (checker.scope.addGlobal (.ofFunction function)).enter function }
      { checker' with
        scope := (checker'.scope.addGlobal (.ofFunction (function.moved onToken))).enter
          (function.moved onToken) } := by
    have callable : (Symbol.ofFunction (function.moved onToken)).unplaced =
        (Symbol.ofFunction function).unplaced := by
      simp [Symbol.ofFunction, Symbol.unplaced, Function.moved, Variable.moved]
    have known := moves.addGlobal callable
    have outside := congrArg Scope.globals known.scope
    exact ⟨congrArg (fun globals => Scope.mk globals [(Symbol.ownVariable function).unplaced]
      (some ⟨function.name, function.result.resolved⟩)) outside, known.diagnostics, known.shown, known.notices⟩
  unfold entered
  apply CheckerMoves.foldl fun _ _ declared moves => moves.declareLocal .var declared
  apply CheckerMoves.foldl fun _ _ definition moves => moves.declareLocalType definition
  exact CheckerMoves.foldl (fun _ _ declared moves => moves.declareLocal .parameter declared)
    function.params inside

/-- Out of a function. -/
theorem leave (moves : CheckerMoves onToken checker checker') :
    CheckerMoves onToken { checker with scope := checker.scope.leave }
      { checker' with scope := checker'.scope.leave } where
  scope := congrArg (fun scope => Scope.mk scope.globals [] none) moves.scope
  diagnostics := moves.diagnostics
  shown := moves.shown
  notices := moves.notices

/-- One function: its declarations, its body, and the notice on a missing return. -/
theorem checkFunction (moves : CheckerMoves onToken checker checker') (function : Function) :
    (checker'.checkFunction (function.moved onToken)).1 =
        (checker.checkFunction function).1.moved onToken ∧
      CheckerMoves onToken (checker.checkFunction function).2
        (checker'.checkFunction (function.moved onToken)).2 := by
  obtain ⟨written, checked⟩ := (moves.enter function).checkBody function.body
  have returns : hasReturn (function.moved onToken).body = hasReturn function.body :=
    hasReturn_moved function.body
  constructor
  · exact congrArg (fun body => { function.moved onToken with body }) written
  · rw [checkFunction_eq, checkFunction_eq, returns]
    dsimp only
    split
    · exact checked.leave
    · exact (checked.note function.tok _).leave

/-- All functions, by induction on those that are left. -/
theorem checkFunctions (moves : CheckerMoves onToken checker checker') (functions : List Function) :
    (checker'.checkFunctions (functions.map (Function.moved onToken))).1 =
        (checker.checkFunctions functions).1.map (Function.moved onToken) ∧
      CheckerMoves onToken (checker.checkFunctions functions).2
        (checker'.checkFunctions (functions.map (Function.moved onToken))).2 := by
  induction functions generalizing checker checker' with
  | nil => exact ⟨rfl, moves⟩
  | cons function functions inductionHypothesis =>
    obtain ⟨written, checked⟩ := moves.checkFunction function
    obtain ⟨others, behind⟩ := inductionHypothesis checked
    exact ⟨congrArg₂ List.cons written others, behind⟩

end CheckerMoves

/-- Checking a moved program is checking the program and moving what comes of it.

Proof: every step of checking looks at the names and types of symbols and nodes only, so it does the
same on both sides; complaints and notices are put at tokens of what is being checked. -/
theorem check_moved (onToken : Token → Token) (checker : Checker) (program : Program) :
    (checker.check (program.moved onToken)).1 = (checker.check program).1.moved onToken ∧
      CheckerMoves onToken (checker.check program).2 (checker.check (program.moved onToken)).2 := by
  have start : CheckerMoves onToken checker.reset checker.reset := ⟨rfl, .nil, rfl, rfl⟩
  have types := CheckerMoves.foldl (fun _ _ definition moves => moves.declareType definition)
    program.types start
  have vars := CheckerMoves.foldl (fun _ _ declared moves => moves.declareGlobal declared)
    program.vars types
  obtain ⟨functions, known⟩ := vars.checkFunctions program.functions
  obtain ⟨body, checked⟩ := known.checkBody program.body
  constructor
  · exact congrArg₂ (fun functions body => { program.moved onToken with functions, body }) functions
      body
  · exact checked

/-- The symbols that a program declares, in order. -/
def declaredSymbols (program : Program) : List Symbol :=
  program.types.flatMap Symbol.membersOf ++
    ((declaredVars program).map (Symbol.ofVariable .var) ++ program.functions.map Symbol.ofFunction)

/-- The symbols of a program are the predefined ones and those it declares. -/
theorem symbols_eq_declaredSymbols (checker : Checker) (program : Program) :
    (checker.check program).2.symbols = Symbol.predefined ++ declaredSymbols program := by
  rw [check_symbols, scopeBehind, List.reverse_append, List.reverse_reverse, globalSymbols_reverse]
  simp only [declaredSymbols, List.append_assoc]

/-- The symbols that a program declares move with its tokens. -/
theorem declaredSymbols_moved (onToken : Token → Token) (program : Program) :
    declaredSymbols (program.moved onToken) =
      (declaredSymbols program).map (Symbol.moved onToken) := by
  have members (definition : TypeDef) : Symbol.membersOf (definition.moved onToken) =
      (Symbol.membersOf definition).map (Symbol.moved onToken) := by
    simp only [Symbol.membersOf, List.map_map]
    rfl
  have called (function : Function) : Symbol.ofFunction (function.moved onToken) =
      (Symbol.ofFunction function).moved onToken := by
    simp only [Symbol.ofFunction, Function.moved, List.map_map]
    rfl
  have vars : declaredVars (program.moved onToken) =
      (declaredVars program).map (Variable.moved onToken) := by
    simp only [declaredVars, Program.moved, List.filter_map]
    rfl
  simp only [declaredSymbols, List.map_append, List.map_flatMap, vars, List.map_map]
  simp only [Program.moved, List.flatMap_map, List.map_map, members]
  congr 2
  exact List.map_congr_left fun function _ => called function

end Programs

end Typing

end WinZig
