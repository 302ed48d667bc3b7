import WinZig.Token.Basic
import WinZig.Tree.Ty

/-!
# Diagnostics

A diagnostic is one thing wrong with the meaning of a program: a complaint about a token, at the
place it is reported at. Complaints are data; how a complaint reads is decided here and nowhere
else.
-/

namespace WinZig

/-- The statements that have a condition. -/
inductive Conditioned where
  | ifStatement
  | forStatement
  | whileStatement
  | repeatStatement
deriving DecidableEq, Repr

/-- How a statement with a condition is called. -/
def Conditioned.name : Conditioned → String
  | ifStatement => "If"
  | forStatement => "For"
  | whileStatement => "While"
  | repeatStatement => "Repeat until"

/-- What is wrong with the meaning of a program. -/
inductive Complaint where
  | undeclaredVariable (name : String)
  | undeclaredFunction (name : String)
  | argumentCount (callee : String)
  | argumentType (expected found : Ty) (callee : String)
  | assignmentTypes (left right : Ty)
  | swapTypes (left right : Ty)
  | condition (statement : Conditioned)
  | returnType (found wanted : Ty) (function : String)
  | literalSelector
  | caseValueType (found selector : Ty)
  | rangeStartType (found selector : Ty)
  | rangeEndType (found selector : Ty)
  | needsIntegers (op : Kind)
  | needsOrdered (op : Kind)
  | needsSame (op : Kind)
  | needsBooleans (op : Kind)
  | needsOperand (op : Kind) (wanted : Ty)
  | redeclaredGlobal (name : String)
  | redeclaredLocal (name : String)
deriving DecidableEq, Repr

/-- How a complaint reads. -/
def Complaint.message : Complaint → String
  | undeclaredVariable name => s!"Undeclared variable: '{name}'"
  | undeclaredFunction name => s!"Calling an undeclared function: '{name}'"
  | argumentCount callee => s!"Function call argument count mismatch: '{callee}'"
  | argumentType expected found callee =>
    s!"Function call argument type mismatch, Expected: '{expected.name}', Found: '{found.name}'" ++
      s!" in {callee}"
  | assignmentTypes left right => s!"Assignment type mismatch: '{left.name}' and '{right.name}'"
  | swapTypes left right => s!"Swap type mismatch: '{left.name}' and '{right.name}'"
  | condition statement => s!"{statement.name} condition type should be boolean"
  | returnType found wanted function =>
    s!"Return type mismatch: '{found.name}' and '{wanted.name}' in {function}"
  | literalSelector => "Case expression cannot be literal integer, boolean or char values"
  | caseValueType found selector =>
    s!"Case value type mismatch: '{found.name}' and '{selector.name}'"
  | rangeStartType found selector =>
    s!"Case range start value type mismatch: '{found.name}' and '{selector.name}'"
  | rangeEndType found selector =>
    s!"Case range end value type mismatch: '{found.name}' and '{selector.name}'"
  | needsIntegers op => s!"Binary operator '{op.name}' can only be applied to integer type"
  | needsOrdered op => s!"Binary operator '{op.name}' can only be applied to integer or char type"
  | needsSame op => s!"Binary operator '{op.name}' can only be applied to same type"
  | needsBooleans op => s!"Binary operator '{op.name}' can only be applied to boolean type"
  | needsOperand op wanted =>
    s!"Unary operator '{op.name}' can only be applied to {wanted.name} type"
  | redeclaredGlobal name => s!"Redeclaration of global variable: '{name}'"
  | redeclaredLocal name => s!"Redeclaration of local variable: '{name}'"

/-- A complaint, the place it is reported at, and the token it is about. -/
structure Diagnostic where
  position : Position
  token : Token
  complaint : Complaint
deriving DecidableEq, Repr

namespace Diagnostic

/-- What is wrong, without the place. -/
def message (diagnostic : Diagnostic) : String := diagnostic.complaint.message

/-- What is wrong, after the place. -/
def render (diagnostic : Diagnostic) : String :=
  s!":{diagnostic.position.render}: {diagnostic.message}"

end Diagnostic

end WinZig
