import WinZig.Token.Basic
import WinZig.Tree.Ty

/-!
# Nodes

Expressions and statements are nodes of one tree type, each anchored at the token it is blamed on.
Expressions carry a type tag. Keeping both in one type lets a tree hold a statement where an
expression is usual, and `Node.missing` lets it hold nothing at all; a parser builds neither, but
every operation on trees is defined on them.

Three listings follow: the direct children of a node in source order, the nodes below and including
a node in the order of a walk, and the same walk when some nodes are entered without going below
them. An inspection is such a walk with a state: whether to go below a node may depend on all that was
seen before it.
-/

namespace WinZig

/-- One clause of a case statement: a value, or the range from `low` to `high` when `high` is not
missing. -/
structure Clause (α : Type) where
  low : α
  high : α
  body : List α
deriving Repr, Inhabited

/-- Expressions and statements. -/
inductive Node where
  /-- Nothing where a node could stand. -/
  | missing
  | integer (tok : Token) (tag : Ty) (value : Int)
  | boolean (tok : Token) (tag : Ty) (value : Bool)
  | character (tok : Token) (tag : Ty) (value : Char)
  | name (tok : Token) (tag : Ty) (name : String)
  | call (tok : Token) (tag : Ty) (callee : String) (args : List Node)
  | binary (tok : Token) (tag : Ty) (op : Kind) (left right : Node)
  | unary (tok : Token) (tag : Ty) (op : Kind) (operand : Node)
  | assign (tok : Token) (target value : Node)
  | swap (tok : Token) (left right : Node)
  | conditional (tok : Token) (condition : Node) (thenBody elseBody : List Node)
  | forLoop (tok : Token) (start condition step : Node) (body : List Node)
  | whileLoop (tok : Token) (condition : Node) (body : List Node)
  | repeatLoop (tok : Token) (body : List Node) (condition : Node)
  | caseOf (tok : Token) (selector : Node) (clauses : List (Clause Node)) (otherwise : List Node)
  | returnOf (tok : Token) (value : Node)
deriving Repr, Inhabited

/-- The forms a node can have. -/
inductive Form where
  | integer
  | boolean
  | character
  | name
  | call
  | binary
  | unary
  | assign
  | swap
  | conditional
  | forLoop
  | whileLoop
  | repeatLoop
  | caseOf
  | returnOf
deriving DecidableEq, Repr

namespace Form

/-- The forms in the order of their numbers. -/
def listed : List Form := [
  integer, boolean, character, name, call, binary, unary, assign, swap, conditional, forLoop,
  whileLoop, repeatLoop, caseOf, returnOf]

/-- How a form is called in listings. -/
def label : Form → String
  | integer => "IntegerLit"
  | boolean => "BooleanLit"
  | character => "CharLit"
  | name => "Ident"
  | call => "Call"
  | binary => "BinaryOp"
  | unary => "UnaryOp"
  | assign => "Assign"
  | swap => "Swap"
  | conditional => "If"
  | forLoop => "For"
  | whileLoop => "While"
  | repeatLoop => "RepeatUntil"
  | caseOf => "Case"
  | returnOf => "Return"

/-- How the form with a given number is called; a number without a form is shown as it is. -/
def labelOfNumber : Int → String
  | .ofNat n => (listed[n]?.map label).getD s!"NodeType({n})"
  | .negSucc n => s!"NodeType({Int.negSucc n})"

end Form

namespace Node

/-- The form of a node; a missing one has none. -/
def form? : Node → Option Form
  | missing => none
  | integer .. => some .integer
  | boolean .. => some .boolean
  | character .. => some .character
  | name .. => some .name
  | call .. => some .call
  | binary .. => some .binary
  | unary .. => some .unary
  | assign .. => some .assign
  | swap .. => some .swap
  | conditional .. => some .conditional
  | forLoop .. => some .forLoop
  | whileLoop .. => some .whileLoop
  | repeatLoop .. => some .repeatLoop
  | caseOf .. => some .caseOf
  | returnOf .. => some .returnOf

/-- The token a node is anchored at. -/
def token : Node → Token
  | missing => {}
  | integer tok .. | boolean tok .. | character tok .. | name tok .. | call tok ..
  | binary tok .. | unary tok .. | assign tok .. | swap tok .. | conditional tok ..
  | forLoop tok .. | whileLoop tok .. | repeatLoop tok .. | caseOf tok .. | returnOf tok .. => tok

/-- Where a node is reported: at the start of its token, and a character literal at its closing
quote. -/
def position : Node → Position
  | character tok .. => tok.finish
  | node => node.token.start

/-- The type tag of an expression; statements and missing nodes carry the empty tag. -/
def tag : Node → Ty
  | integer _ tag _ | boolean _ tag _ | character _ tag _ | name _ tag _ | call _ tag ..
  | binary _ tag .. | unary _ tag .. => tag
  | _ => .unknown

/-- Whether a node stands for something. -/
def isPresent : Node → Bool
  | missing => false
  | _ => true

/-- Whether a node is an integer, boolean or character literal. -/
def isLiteral : Node → Bool
  | integer .. | boolean .. | character .. => true
  | _ => false

/-- Whether a node is a return statement. -/
def isReturn : Node → Bool
  | returnOf .. => true
  | _ => false

/-- The direct children of a node in source order, missing ones included. -/
def children : Node → List Node
  | missing | integer .. | boolean .. | character .. | name .. => []
  | call _ _ _ args => args
  | binary _ _ _ left right | swap _ left right => [left, right]
  | unary _ _ _ operand => [operand]
  | assign _ target value => [target, value]
  | conditional _ condition thenBody elseBody => condition :: thenBody ++ elseBody
  | forLoop _ start condition step body => start :: condition :: step :: body
  | whileLoop _ condition body => condition :: body
  | repeatLoop _ body condition => body ++ [condition]
  | caseOf _ selector clauses otherwise =>
    selector :: clauses.flatMap (fun clause => clause.low :: clause.high :: clause.body) ++
      otherwise
  | returnOf _ value => [value]

/-- Every child is smaller than its parent. -/
theorem sizeOf_lt_of_mem_children {child node : Node} (member : child ∈ node.children) :
    sizeOf child < sizeOf node := by
  cases node with
  | caseOf tok selector clauses otherwise =>
    simp only [children, List.mem_append, List.mem_cons, List.mem_flatMap] at member
    rcases member with (rfl | ⟨clause, listed, within⟩) | within
    · simp; omega
    · have inList := List.sizeOf_lt_of_mem listed
      rcases clause with ⟨low, high, body⟩
      rcases within with rfl | rfl | within
      · simp at inList ⊢; omega
      · simp at inList ⊢; omega
      · have inBody := List.sizeOf_lt_of_mem within
        simp at inList inBody ⊢; omega
    · have inList := List.sizeOf_lt_of_mem within
      simp; omega
  | call tok tag callee args =>
    simp only [children] at member
    have inList := List.sizeOf_lt_of_mem member
    simp; omega
  | conditional tok condition thenBody elseBody =>
    simp only [children, List.mem_append, List.mem_cons] at member
    rcases member with (rfl | within) | within
    · simp; omega
    · have inList := List.sizeOf_lt_of_mem within
      simp; omega
    · have inList := List.sizeOf_lt_of_mem within
      simp; omega
  | forLoop tok start condition step body =>
    simp only [children, List.mem_cons] at member
    rcases member with rfl | rfl | rfl | within
    · simp; omega
    · simp; omega
    · simp; omega
    · have inList := List.sizeOf_lt_of_mem within
      simp; omega
  | whileLoop tok condition body =>
    simp only [children, List.mem_cons] at member
    rcases member with rfl | within
    · simp; omega
    · have inList := List.sizeOf_lt_of_mem within
      simp; omega
  | repeatLoop tok body condition =>
    simp only [children, List.mem_append, List.mem_singleton] at member
    rcases member with within | rfl
    · have inList := List.sizeOf_lt_of_mem within
      simp; omega
    · simp only [repeatLoop.sizeOf_spec]; omega
  | binary | unary | assign | swap | returnOf =>
    simp only [children, List.mem_cons, List.not_mem_nil, or_false] at member
    rcases member with rfl | rfl <;> simp <;> omega
  | missing | integer | boolean | character | name => simp [children] at member

mutual

/-- The present nodes met by a walk in source order, a node before its children. Nothing below a
node is visited unless `enter` admits the node. -/
def walk (enter : Node → Bool) : Node → List Node
  | missing => []
  | node@(integer ..) | node@(boolean ..) | node@(character ..) | node@(name ..) => [node]
  | node@(call _ _ _ args) => node :: if enter node then walkAll enter args else []
  | node@(binary _ _ _ left right) | node@(swap _ left right) =>
    node :: if enter node then walk enter left ++ walk enter right else []
  | node@(unary _ _ _ operand) => node :: if enter node then walk enter operand else []
  | node@(assign _ target value) =>
    node :: if enter node then walk enter target ++ walk enter value else []
  | node@(conditional _ condition thenBody elseBody) =>
    node :: if enter node then
      walk enter condition ++ walkAll enter thenBody ++ walkAll enter elseBody else []
  | node@(forLoop _ start condition step body) =>
    node :: if enter node then
      walk enter start ++ walk enter condition ++ walk enter step ++ walkAll enter body else []
  | node@(whileLoop _ condition body) =>
    node :: if enter node then walk enter condition ++ walkAll enter body else []
  | node@(repeatLoop _ body condition) =>
    node :: if enter node then walkAll enter body ++ walk enter condition else []
  | node@(caseOf _ selector clauses otherwise) =>
    node :: if enter node then
      walk enter selector ++ walkClauses enter clauses ++ walkAll enter otherwise else []
  | node@(returnOf _ value) => node :: if enter node then walk enter value else []

/-- The walk over some nodes, one after another. -/
def walkAll (enter : Node → Bool) : List Node → List Node
  | [] => []
  | node :: rest => walk enter node ++ walkAll enter rest

/-- The walk over some case clauses, one after another. -/
def walkClauses (enter : Node → Bool) : List (Clause Node) → List Node
  | [] => []
  | ⟨low, high, body⟩ :: rest =>
    walk enter low ++ walk enter high ++ walkAll enter body ++ walkClauses enter rest

end

/-- The walk over a list concatenates the walks over its members. -/
theorem walkAll_eq_flatMap (enter : Node → Bool) (nodes : List Node) :
    walkAll enter nodes = nodes.flatMap (walk enter) := by
  induction nodes with
  | nil => rfl
  | cons node rest inductionHypothesis => simp [walkAll, inductionHypothesis]

/-- The walk over clauses concatenates the walks over their parts. -/
theorem walkClauses_eq_flatMap (enter : Node → Bool) (clauses : List (Clause Node)) :
    walkClauses enter clauses =
      (clauses.flatMap fun clause => clause.low :: clause.high :: clause.body).flatMap
        (walk enter) := by
  induction clauses with
  | nil => rfl
  | cons clause rest inductionHypothesis =>
    simp [walkClauses, inductionHypothesis, walkAll_eq_flatMap]

/-- A walk meets a present node and then, if it is entered, what the walks over its children
meet. -/
theorem walk_eq (enter : Node → Bool) (node : Node) (present : node.isPresent = true) :
    walk enter node = node :: if enter node then node.children.flatMap (walk enter) else [] := by
  cases node <;>
    simp_all [walk, children, isPresent, walkAll_eq_flatMap, walkClauses_eq_flatMap]

section Inspection

variable {σ : Type} (look : Node → StateM σ Bool)

mutual

/-- Looks at the present nodes in source order, at a node before its children. Looking at a node may
change a state that is shared by all of them, and tells whether to go below the node. -/
def inspect : Node → StateM σ Unit
  | missing => pure ()
  | node@(integer ..) | node@(boolean ..) | node@(character ..) | node@(name ..) => do
    let _ ← look node
  | node@(call _ _ _ args) => do
    if ← look node then inspectAll args
  | node@(binary _ _ _ left right) | node@(swap _ left right) => do
    if ← look node then
      inspect left
      inspect right
  | node@(unary _ _ _ operand) => do
    if ← look node then inspect operand
  | node@(assign _ target value) => do
    if ← look node then
      inspect target
      inspect value
  | node@(conditional _ condition thenBody elseBody) => do
    if ← look node then
      inspect condition
      inspectAll thenBody
      inspectAll elseBody
  | node@(forLoop _ start condition step body) => do
    if ← look node then
      inspect start
      inspect condition
      inspect step
      inspectAll body
  | node@(whileLoop _ condition body) => do
    if ← look node then
      inspect condition
      inspectAll body
  | node@(repeatLoop _ body condition) => do
    if ← look node then
      inspectAll body
      inspect condition
  | node@(caseOf _ selector clauses otherwise) => do
    if ← look node then
      inspect selector
      inspectClauses clauses
      inspectAll otherwise
  | node@(returnOf _ value) => do
    if ← look node then inspect value

/-- Looks at some nodes, one after another. -/
def inspectAll : List Node → StateM σ Unit
  | [] => pure ()
  | node :: rest => do
    inspect node
    inspectAll rest

/-- Looks at some case clauses, one after another. -/
def inspectClauses : List (Clause Node) → StateM σ Unit
  | [] => pure ()
  | ⟨low, high, body⟩ :: rest => do
    inspect low
    inspect high
    inspectAll body
    inspectClauses rest

end

end Inspection

end Node

end WinZig
