import WinZig.Checker.Body
import WinZig.Notice

/-!
# Checking programs

A checker goes through a program once: types and variables of the program, then the functions in
order, then the body of the program. A function becomes visible to calls when its turn comes, before
its own body is checked; what it declares is forgotten when it is left. As visits can be followed, so
can checks.

A name declared twice is complained about and declared all the same, so that the later meaning is
the visible one. The variable `d` is predefined; a program that declares it declares nothing.
-/

namespace WinZig

/-- The state of checking: what is visible, and what has been collected. -/
structure Checker where
  scope : Scope := {}
  diagnostics : List Diagnostic := []
  /-- The warnings that are on. -/
  shown : Warning → Bool := Warning.initial
  /-- The notices raised so far, in order. -/
  notices : List Notice := []

namespace Checker

/-- The name of the predefined variable for values that are not wanted. -/
def discard : String := "d"

/-- A further complaint. -/
def complain (checker : Checker) (declared : Variable) (complaint : Complaint) : Checker :=
  { checker with
    diagnostics := checker.diagnostics ++ [⟨declared.tok.start, declared.tok, complaint⟩] }

/-- A further notice, if the warning for it is on. -/
def note (checker : Checker) (tok : Token) (remark : Remark) : Checker :=
  { checker with notices := checker.notices ++ Notice.raised checker.shown tok remark }

/-- Declares the members of an enumerated type of the program. -/
def declareType (checker : Checker) (definition : TypeDef) : Checker :=
  { checker with scope := (Symbol.membersOf definition).foldl Scope.addGlobal checker.scope }

/-- Declares a variable of the program. -/
def declareGlobal (checker : Checker) (declared : Variable) : Checker :=
  if declared.name = discard then checker else
  let checker :=
    if checker.scope.globals.any (Scope.isNamed false declared.name) then
      checker.complain declared (.redeclaredGlobal declared.name)
    else checker
  { checker with scope := checker.scope.addGlobal (.ofVariable .var declared) }

/-- Declares the members of an enumerated type of a function. -/
def declareLocalType (checker : Checker) (definition : TypeDef) : Checker :=
  { checker with scope := (Symbol.membersOf definition).foldl Scope.addLocal checker.scope }

/-- Whether a name means a variable of the program, not a member of one of its types. -/
def isGlobalVariable (scope : Scope) (name : String) : Bool :=
  (scope.findVariable? name).any fun sym => sym.role = .var

/-- Declares a parameter or a variable of a function. -/
def declareLocal (role : Role) (checker : Checker) (declared : Variable) : Checker :=
  let checker :=
    if checker.scope.locals.any (Scope.isNamed false declared.name) then
      checker.complain declared (.redeclaredLocal declared.name)
    else if declared.name ≠ discard ∧ isGlobalVariable checker.scope declared.name then
      checker.note declared.tok (.shadows declared.name)
    else checker
  { checker with scope := checker.scope.addLocal (.ofVariable role declared) }

/-- Looks for a return statement. Nothing below a node is looked at any more once one was found. -/
def seekReturn (node : Node) : StateM Bool Bool := do
  if node.isReturn then set true
  return !(← get)

/-- Whether a return statement stands anywhere in a body. -/
def hasReturn (body : List Node) : Bool := ((Node.inspectAll seekReturn body).run false).run.2

/-- A checker with the same warnings that has seen nothing. -/
def reset (checker : Checker) : Checker := { shown := checker.shown }

section Observed

variable {m : Type → Type} [Monad m] (observer : Observer m)

/-- Checks a body, followed by an observer. -/
def checkBodyWith (checker : Checker) (body : List Node) : m (List Node × Checker) := do
  let visits ← visitAllWith observer checker.scope body
  return (nodesOf visits,
    { checker with diagnostics := checker.diagnostics ++ diagnosticsOf visits })

/-- Checks a function and leaves it again, followed by an observer. -/
def checkFunctionWith (checker : Checker) (function : Function) : m (Function × Checker) := do
  let scope := (checker.scope.addGlobal (.ofFunction function)).enter function
  let checker := { checker with scope }
  let checker := function.params.foldl (declareLocal .parameter) checker
  let checker := function.types.foldl declareLocalType checker
  let checker := function.locals.foldl (declareLocal .var) checker
  let checked ← checkBodyWith observer checker function.body
  let checker :=
    if hasReturn function.body then checked.2
    else checked.2.note function.tok (.noReturn function.name)
  return ({ function with body := checked.1 }, { checker with scope := checker.scope.leave })

/-- Checks some functions, one after another, followed by an observer. -/
def checkFunctionsWith (checker : Checker) : List Function → m (List Function × Checker)
  | [] => return ([], checker)
  | function :: rest => do
    let first ← checkFunctionWith observer checker function
    let others ← checkFunctionsWith first.2 rest
    return (first.1 :: others.1, others.2)

/-- Checks a program from the start, followed by an observer. -/
def checkWith (checker : Checker) (program : Program) : m (Program × Checker) := do
  let checker := program.types.foldl declareType checker.reset
  let checker := program.vars.foldl declareGlobal checker
  let checked ← checkFunctionsWith observer checker program.functions
  let last ← checkBodyWith observer checked.2 program.body
  return ({ program with functions := checked.1, body := last.1 }, last.2)

end Observed

/-- Checks a body. -/
def checkBody (checker : Checker) (body : List Node) : List Node × Checker :=
  (checkBodyWith .nobody checker body).run

/-- Checks a function and leaves it again. -/
def checkFunction (checker : Checker) (function : Function) : Function × Checker :=
  (checkFunctionWith .nobody checker function).run

/-- Checks some functions, one after another. -/
def checkFunctions (checker : Checker) (functions : List Function) : List Function × Checker :=
  (checkFunctionsWith .nobody checker functions).run

/-- Checks a program from the start, whatever was checked before. The tags of the program are
written, the complaints and notices are those of this program. -/
def check (checker : Checker) (program : Program) : Program × Checker :=
  (checkWith .nobody checker program).run

/-- The nodes of a body are visited in one scope, and the complaints are kept. -/
theorem checkBody_eq (checker : Checker) (body : List Node) :
    checker.checkBody body =
      (nodesOf (visitAll checker.scope body),
        { checker with
          diagnostics := checker.diagnostics ++ diagnosticsOf (visitAll checker.scope body) }) :=
  rfl

/-- There is no function to check. -/
theorem checkFunctions_nil (checker : Checker) : checker.checkFunctions [] = ([], checker) := rfl

/-- The first function is checked first, and the others are checked behind it. -/
theorem checkFunctions_cons (checker : Checker) (function : Function) (rest : List Function) :
    checker.checkFunctions (function :: rest) =
      let first := checker.checkFunction function
      let others := first.2.checkFunctions rest
      (first.1 :: others.1, others.2) := rfl

/-- Checks a program if there is one, and otherwise only forgets what was checked before. -/
def checkAny (checker : Checker) : Option Program → Option Program × Checker
  | none => (none, checker.reset)
  | some program =>
    let (program, checker) := checker.check program
    (some program, checker)

/-- The symbols of the program in the order of their declaration, predefined ones first. -/
def symbols (checker : Checker) : List Symbol := checker.scope.globals.reverse

end Checker

end WinZig
