import Mathlib
import WinZig.Fault
import WinZig.Notice
import WinZig.Tree.Program

/-!
# Trees with other labels

Tokens and tags are labels: a tree keeps its meaning when they change. Three changes matter. Taking
the tags away leaves the tree as it was before it was checked, taking the tokens away leaves the
tree as it could have been read from any other layout of the same text, and moving the tokens gives
the tree as it is read from one such layout.
-/

namespace WinZig

/-! ## What tokens say -/

/-- What a token says, wherever it stands. -/
structure Lexeme where
  kind : Kind
  text : String
deriving DecidableEq, Repr

/-- What a token says. -/
def Token.lexeme (tok : Token) : Lexeme := ⟨tok.kind, tok.text⟩

/-- A token that says something and stands nowhere. -/
def Lexeme.token (lexeme : Lexeme) : Token := { kind := lexeme.kind, text := lexeme.text }

/-- Tokens that are made for some lexemes say them. -/
theorem Lexeme.map_lexeme_token (lexemes : List Lexeme) :
    (lexemes.map token).map Token.lexeme = lexemes := by
  rw [List.map_map]
  exact List.map_id lexemes

/-! ## Walks -/

namespace Node

/-- What holds of a node if it holds of its children holds of all nodes. -/
theorem children_induction {motive : Node → Prop}
    (step : ∀ node : Node, (∀ child ∈ node.children, motive child) → motive node) (node : Node) :
    motive node :=
  step node fun child _ => children_induction step child
termination_by sizeOf node
decreasing_by exact Node.sizeOf_lt_of_mem_children ‹_›

/-- The only absent node is the missing one. -/
theorem eq_missing {node : Node} (absent : node.isPresent = false) : node = missing := by
  cases node with
  | missing => rfl
  | _ => exact absurd absent (by simp [isPresent])

/-- What a node that is entered passes on to its children holds of every node that a walk meets. -/
theorem walk_forall {enter : Node → Bool} {holds : Node → Prop}
    (step : ∀ node, enter node = true → holds node → ∀ child ∈ node.children, holds child)
    {node : Node} (start : holds node) : ∀ inner ∈ walk enter node, holds inner := by
  induction node using children_induction with
  | step node inductionHypothesis =>
    intro inner member
    by_cases present : node.isPresent = true
    · rw [walk_eq _ _ present, List.mem_cons] at member
      rcases member with rfl | below
      · exact start
      · split at below
        · next entered =>
          obtain ⟨child, listed, within⟩ := List.mem_flatMap.mp below
          exact inductionHypothesis child listed (step node entered start child listed) inner within
        · exact absurd below List.not_mem_nil
    · rw [eq_missing (Bool.eq_false_of_not_eq_true present)] at member
      exact absurd member List.not_mem_nil

/-- Where a change of nodes is a change of their children, a walk meets the changed nodes of the walk
over the nodes as they were. -/
theorem walk_map {change : Node → Node}
    (present : ∀ node, (change node).isPresent = node.isPresent)
    (parts : ∀ node, (change node).children = node.children.map change) (node : Node) :
    walk (fun _ => true) (change node) = (walk (fun _ => true) node).map change := by
  induction node using children_induction with
  | step node inductionHypothesis =>
    cases stands : node.isPresent with
    | false =>
      rw [eq_missing stands, eq_missing ((present missing).trans rfl)]
      rfl
    | true =>
      rw [walk_eq _ _ stands, walk_eq _ _ ((present node).trans stands), parts]
      simp only [if_true, List.map_cons, List.flatMap_map, List.map_flatMap]
      congr 1
      exact List.flatMap_congr inductionHypothesis

mutual

/-- A node with other tokens and tags. -/
def relabel (onToken : Token → Token) (onTag : Ty → Ty) : Node → Node
  | .missing => .missing
  | .integer tok tag value => .integer (onToken tok) (onTag tag) value
  | .boolean tok tag value => .boolean (onToken tok) (onTag tag) value
  | .character tok tag value => .character (onToken tok) (onTag tag) value
  | .name tok tag text => .name (onToken tok) (onTag tag) text
  | .call tok tag callee args =>
    .call (onToken tok) (onTag tag) callee (relabelAll onToken onTag args)
  | .binary tok tag op left right =>
    .binary (onToken tok) (onTag tag) op (relabel onToken onTag left) (relabel onToken onTag right)
  | .unary tok tag op operand =>
    .unary (onToken tok) (onTag tag) op (relabel onToken onTag operand)
  | .assign tok target value =>
    .assign (onToken tok) (relabel onToken onTag target) (relabel onToken onTag value)
  | .swap tok left right =>
    .swap (onToken tok) (relabel onToken onTag left) (relabel onToken onTag right)
  | .conditional tok condition thenBody elseBody =>
    .conditional (onToken tok) (relabel onToken onTag condition)
      (relabelAll onToken onTag thenBody) (relabelAll onToken onTag elseBody)
  | .forLoop tok start condition step body =>
    .forLoop (onToken tok) (relabel onToken onTag start) (relabel onToken onTag condition)
      (relabel onToken onTag step) (relabelAll onToken onTag body)
  | .whileLoop tok condition body =>
    .whileLoop (onToken tok) (relabel onToken onTag condition) (relabelAll onToken onTag body)
  | .repeatLoop tok body condition =>
    .repeatLoop (onToken tok) (relabelAll onToken onTag body) (relabel onToken onTag condition)
  | .caseOf tok selector clauses otherwise =>
    .caseOf (onToken tok) (relabel onToken onTag selector) (relabelClauses onToken onTag clauses)
      (relabelAll onToken onTag otherwise)
  | .returnOf tok value => .returnOf (onToken tok) (relabel onToken onTag value)

/-- Some nodes with other tokens and tags. -/
def relabelAll (onToken : Token → Token) (onTag : Ty → Ty) : List Node → List Node
  | [] => []
  | node :: rest => relabel onToken onTag node :: relabelAll onToken onTag rest

/-- Some clauses with other tokens and tags. -/
def relabelClauses (onToken : Token → Token) (onTag : Ty → Ty) :
    List (Clause Node) → List (Clause Node)
  | [] => []
  | ⟨low, high, body⟩ :: rest =>
    ⟨relabel onToken onTag low, relabel onToken onTag high, relabelAll onToken onTag body⟩ ::
      relabelClauses onToken onTag rest

end

variable {onToken : Token → Token} {onTag : Ty → Ty}

/-- Nodes are relabelled one by one. -/
theorem relabelAll_eq_map (nodes : List Node) :
    relabelAll onToken onTag nodes = nodes.map (relabel onToken onTag) := by
  induction nodes with
  | nil => rfl
  | cons node rest ih => rw [relabelAll, ih, List.map_cons]

/-- Clauses are relabelled one by one. -/
theorem relabelClauses_eq_map (clauses : List (Clause Node)) :
    relabelClauses onToken onTag clauses = clauses.map fun clause =>
      ⟨relabel onToken onTag clause.low, relabel onToken onTag clause.high,
        clause.body.map (relabel onToken onTag)⟩ := by
  induction clauses with
  | nil => rfl
  | cons clause rest ih => rw [relabelClauses, ih, List.map_cons, relabelAll_eq_map]

mutual

/-- Nothing changes if no label does. -/
theorem relabel_id : ∀ node : Node, relabel id id node = node
  | .missing | .integer .. | .boolean .. | .character .. | .name .. => rfl
  | .call _ _ _ args => by simp only [relabel, relabelAll_id args, id]
  | .binary _ _ _ left right => by simp only [relabel, relabel_id left, relabel_id right, id]
  | .unary _ _ _ operand => by simp only [relabel, relabel_id operand, id]
  | .assign _ target value => by simp only [relabel, relabel_id target, relabel_id value, id]
  | .swap _ left right => by simp only [relabel, relabel_id left, relabel_id right, id]
  | .conditional _ condition thenBody elseBody => by
    simp only [relabel, relabel_id condition, relabelAll_id thenBody, relabelAll_id elseBody, id]
  | .forLoop _ start condition step body => by
    simp only [relabel, relabel_id start, relabel_id condition, relabel_id step,
      relabelAll_id body, id]
  | .whileLoop _ condition body => by
    simp only [relabel, relabel_id condition, relabelAll_id body, id]
  | .repeatLoop _ body condition => by
    simp only [relabel, relabel_id condition, relabelAll_id body, id]
  | .caseOf _ selector clauses otherwise => by
    simp only [relabel, relabel_id selector, relabelClauses_id clauses, relabelAll_id otherwise, id]
  | .returnOf _ value => by simp only [relabel, relabel_id value, id]

/-- Relabelling nodes with nothing new changes nothing. -/
theorem relabelAll_id : ∀ nodes : List Node, relabelAll id id nodes = nodes
  | [] => rfl
  | node :: rest => by rw [relabelAll, relabel_id node, relabelAll_id rest]

/-- Relabelling clauses with nothing new changes nothing. -/
theorem relabelClauses_id : ∀ clauses : List (Clause Node), relabelClauses id id clauses = clauses
  | [] => rfl
  | ⟨low, high, body⟩ :: rest => by
    rw [relabelClauses, relabel_id low, relabel_id high, relabelAll_id body, relabelClauses_id rest]

end

/-- Relabelling reaches the children. -/
theorem children_relabel (node : Node) :
    (relabel onToken onTag node).children = node.children.map (relabel onToken onTag) := by
  cases node with
  | caseOf tok selector clauses otherwise =>
    simp [relabel, children, relabelAll_eq_map, relabelClauses_eq_map, List.flatMap_map,
      List.map_flatMap]
  | call | conditional | forLoop | whileLoop | repeatLoop =>
    simp [relabel, children, relabelAll_eq_map]
  | _ => rfl

/-- Relabelling leaves out no node. -/
theorem isPresent_relabel (node : Node) :
    (relabel onToken onTag node).isPresent = node.isPresent := by
  cases node <;> rfl

/-- Relabelling keeps literals. -/
theorem isLiteral_relabel (node : Node) :
    (relabel onToken onTag node).isLiteral = node.isLiteral := by
  cases node <;> rfl

/-- Relabelling keeps returns. -/
theorem isReturn_relabel (node : Node) :
    (relabel onToken onTag node).isReturn = node.isReturn := by
  cases node <;> rfl

/-- A node before any tag is written. -/
def untagged : Node → Node := relabel id fun _ => .unknown

/-- A node wherever it may stand in a source. -/
def unplaced : Node → Node := relabel (fun _ => {}) id

/-- A node with its tokens elsewhere. -/
def moved (onToken : Token → Token) : Node → Node := relabel onToken id

end Node

/-- A function before any tag is written. -/
def Function.untagged (function : Function) : Function :=
  { function with body := function.body.map Node.untagged }

/-- A program before any tag is written. -/
def Program.untagged (program : Program) : Program :=
  { program with
    functions := program.functions.map Function.untagged
    body := program.body.map Node.untagged }

/-- A variable wherever its declaration may stand. -/
def Variable.unplaced (declared : Variable) : Variable := { declared with tok := {} }

/-- A type wherever its definition may stand. -/
def TypeDef.unplaced (definition : TypeDef) : TypeDef := { definition with tok := {} }

/-- A function wherever it may stand. -/
def Function.unplaced (function : Function) : Function where
  name := function.name
  result := function.result
  params := function.params.map Variable.unplaced
  types := function.types.map TypeDef.unplaced
  locals := function.locals.map Variable.unplaced
  body := function.body.map Node.unplaced
  tok := {}

/-- A program however it may be laid out. -/
def Program.unplaced (program : Program) : Program where
  name := program.name
  endName := program.endName
  types := program.types.map TypeDef.unplaced
  vars := program.vars.map Variable.unplaced
  functions := program.functions.map Function.unplaced
  body := program.body.map Node.unplaced
  tok := {}

section Moved

variable (onToken : Token → Token)

/-- A clause with its tokens elsewhere. -/
def Clause.moved (clause : Clause Node) : Clause Node where
  low := clause.low.moved onToken
  high := clause.high.moved onToken
  body := clause.body.map (Node.moved onToken)

namespace Node

variable {onToken}

/-! A moved node has moved parts. What happens to a node of one form is seen by going through the
definition, so the equations of all forms are not derived here. -/

/-- Nodes are moved one by one. -/
theorem relabelAll_moved (nodes : List Node) :
    relabelAll onToken id nodes = nodes.map (moved onToken) := relabelAll_eq_map nodes

/-- Clauses are moved one by one. -/
theorem relabelClauses_moved (clauses : List (Clause Node)) :
    relabelClauses onToken id clauses = clauses.map (Clause.moved onToken) :=
  relabelClauses_eq_map clauses

/-- A call is moved with its arguments. -/
theorem moved_call (tok : Token) (tag : Ty) (callee : String) (args : List Node) :
    (call tok tag callee args).moved onToken =
      call (onToken tok) tag callee (args.map (moved onToken)) := by
  rw [← relabelAll_moved]
  rfl

/-- A binary operation is moved with both sides. -/
theorem moved_binary (tok : Token) (tag : Ty) (op : Kind) (left right : Node) :
    (binary tok tag op left right).moved onToken =
      binary (onToken tok) tag op (left.moved onToken) (right.moved onToken) := rfl

/-- A unary operation is moved with its operand. -/
theorem moved_unary (tok : Token) (tag : Ty) (op : Kind) (operand : Node) :
    (unary tok tag op operand).moved onToken =
      unary (onToken tok) tag op (operand.moved onToken) := rfl

/-- An assignment is moved with its target and its value. -/
theorem moved_assign (tok : Token) (target value : Node) :
    (assign tok target value).moved onToken =
      assign (onToken tok) (target.moved onToken) (value.moved onToken) := rfl

/-- A swap is moved with both sides. -/
theorem moved_swap (tok : Token) (left right : Node) :
    (swap tok left right).moved onToken =
      swap (onToken tok) (left.moved onToken) (right.moved onToken) := rfl

/-- A conditional is moved with its condition and both branches. -/
theorem moved_conditional (tok : Token) (condition : Node) (thenBody elseBody : List Node) :
    (conditional tok condition thenBody elseBody).moved onToken =
      conditional (onToken tok) (condition.moved onToken) (thenBody.map (moved onToken))
        (elseBody.map (moved onToken)) := by
  rw [← relabelAll_moved, ← relabelAll_moved]
  rfl

/-- A loop that counts is moved with its head and its body. -/
theorem moved_forLoop (tok : Token) (start condition step : Node) (body : List Node) :
    (forLoop tok start condition step body).moved onToken =
      forLoop (onToken tok) (start.moved onToken) (condition.moved onToken) (step.moved onToken)
        (body.map (moved onToken)) := by
  rw [← relabelAll_moved]
  rfl

/-- A loop that tests first is moved with its condition and its body. -/
theorem moved_whileLoop (tok : Token) (condition : Node) (body : List Node) :
    (whileLoop tok condition body).moved onToken =
      whileLoop (onToken tok) (condition.moved onToken) (body.map (moved onToken)) := by
  rw [← relabelAll_moved]
  rfl

/-- A loop that tests last is moved with its body and its condition. -/
theorem moved_repeatLoop (tok : Token) (body : List Node) (condition : Node) :
    (repeatLoop tok body condition).moved onToken =
      repeatLoop (onToken tok) (body.map (moved onToken)) (condition.moved onToken) := by
  rw [← relabelAll_moved]
  rfl

/-- A case is moved with its selector, its clauses and what is left. -/
theorem moved_caseOf (tok : Token) (selector : Node) (clauses : List (Clause Node))
    (otherwise : List Node) :
    (caseOf tok selector clauses otherwise).moved onToken =
      caseOf (onToken tok) (selector.moved onToken) (clauses.map (Clause.moved onToken))
        (otherwise.map (moved onToken)) := by
  rw [← relabelAll_moved, ← relabelClauses_moved]
  rfl

/-- A return is moved with its value. -/
theorem moved_returnOf (tok : Token) (value : Node) :
    (returnOf tok value).moved onToken = returnOf (onToken tok) (value.moved onToken) := rfl

/-- Moving keeps literals. -/
theorem isLiteral_moved (node : Node) : (node.moved onToken).isLiteral = node.isLiteral :=
  isLiteral_relabel node

/-- What stands for something is anchored at its moved token. -/
theorem token_moved {node : Node} (present : node.isPresent = true) :
    (node.moved onToken).token = onToken node.token := by
  cases node with
  | missing => exact absurd present (by decide)
  | _ => rfl

end Node

/-- A declaration with its token elsewhere. -/
def Variable.moved (declared : Variable) : Variable := { declared with tok := onToken declared.tok }

/-- The definition of a type with its token elsewhere. -/
def TypeDef.moved (definition : TypeDef) : TypeDef :=
  { definition with tok := onToken definition.tok }

/-- A function with its tokens elsewhere. -/
def Function.moved (function : Function) : Function where
  name := function.name
  result := function.result
  params := function.params.map (Variable.moved onToken)
  types := function.types.map (TypeDef.moved onToken)
  locals := function.locals.map (Variable.moved onToken)
  body := function.body.map (Node.moved onToken)
  tok := onToken function.tok

/-- A notice on a token elsewhere. -/
def Notice.moved (notice : Notice) : Notice := { notice with token := onToken notice.token }

/-- A fault at a token elsewhere. -/
def Fault.moved (fault : Fault) : Fault := { fault with token := onToken fault.token }

/-- A program with its tokens elsewhere. -/
def Program.moved (program : Program) : Program where
  name := program.name
  endName := program.endName
  types := program.types.map (TypeDef.moved onToken)
  vars := program.vars.map (Variable.moved onToken)
  functions := program.functions.map (Function.moved onToken)
  body := program.body.map (Node.moved onToken)
  tok := onToken program.tok

end Moved

/-- What is remarked on a token is remarked on it elsewhere. -/
theorem Notice.raised_moved (onToken : Token → Token) (shown : Warning → Bool) (tok : Token)
    (remark : Remark) :
    (Notice.raised shown tok remark).map (Notice.moved onToken) =
      Notice.raised shown (onToken tok) remark := by
  unfold Notice.raised
  split <;> rfl

/-- Declarations stay the same if their tokens stay where they are. -/
theorem Variable.moved_id : Variable.moved id = id := rfl

/-- Definitions of types stay the same if their tokens stay where they are. -/
theorem TypeDef.moved_id : TypeDef.moved id = id := rfl

/-- Nodes stay the same if their tokens stay where they are. -/
theorem Node.moved_id : Node.moved id = id := funext relabel_id

/-- Functions stay the same if their tokens stay where they are. -/
theorem Function.moved_id : Function.moved id = id := by
  funext function
  simp only [Function.moved, Variable.moved_id, TypeDef.moved_id, Node.moved_id, List.map_id]
  rfl

/-- Programs stay the same if their tokens stay where they are. -/
theorem Program.moved_id : Program.moved id = id := by
  funext program
  simp only [Program.moved, Variable.moved_id, TypeDef.moved_id, Function.moved_id, Node.moved_id,
    List.map_id]
  rfl

end WinZig
