import WinZig.Checker.Diagnostic
import WinZig.Checker.Symbol

/-!
# Checking bodies

Checking visits the nodes of a body in source order, writes a type tag into every expression it
visits, and collects complaints. What is visible does not change within a body, so a visit is a
function of the scope and the node alone.

An expression that nothing can be made of gets the empty tag. It has been complained about where
the trouble is, so whatever it is an operand of stays silent. Of a call to an undeclared function,
or with the wrong number of arguments, the arguments are not visited: their tags stay what they
were.

A visit can be followed: an observer is told what happens to the nodes while it happens. Usually nobody
follows.
-/

namespace WinZig

namespace Node

/-- A complaint anchored at a node. -/
def complain (node : Node) (complaint : Complaint) : Diagnostic :=
  ⟨node.position, node.token, complaint⟩

end Node

namespace Checker

/-- What a visit gives: the node with its tags written, the tag of the expression (empty for a
statement), and the complaints in the order they arise. -/
structure Visited where
  node : Node
  tag : Ty := .unknown
  diagnostics : List Diagnostic := []

/-- The nodes of some visits. -/
def nodesOf (visits : List Visited) : List Node := visits.map Visited.node

/-- The complaints of some visits, in order. -/
def diagnosticsOf (visits : List Visited) : List Diagnostic := visits.flatMap Visited.diagnostics

/-- A list with one complaint if a condition holds, and none otherwise. -/
def complainIf (condition : Bool) (diagnostic : Diagnostic) : List Diagnostic :=
  if condition then [diagnostic] else []

/-- Whether two tags are both known and differ. -/
def disagree (left right : Ty) : Bool := left != .unknown && right != .unknown && left != right

/-- The tag of a binary operation on operands with known tags, and its complaint. -/
def binaryRule (op : Kind) (left right : Ty) : Ty × Option Complaint :=
  match op with
  | .plus | .minus | .star | .slash | .modWord =>
    (.integer, if left = .integer ∧ right = .integer then none else some (.needsIntegers op))
  | .less | .lessEqual | .greater | .greaterEqual =>
    (.boolean, if left = right ∧ (left = .integer ∨ left = .char) then none
      else some (.needsOrdered op))
  | .equal | .notEqual => (.boolean, if left = right then none else some (.needsSame op))
  | .andWord | .orWord =>
    (.boolean, if left = .boolean ∧ right = .boolean then none else some (.needsBooleans op))
  | _ => (.unknown, none)

/-- The tag a prefix operator wants of its operand, and the tag it gives. -/
def unaryRule? : Kind → Option (Ty × Ty)
  | .minus | .plus | .succWord | .predWord => some (.integer, .integer)
  | .notWord => some (.boolean, .boolean)
  | .ordWord => some (.char, .integer)
  | .chrWord => some (.integer, .char)
  | _ => none

/-- The tag of a prefix operation on an operand with a known tag, and its complaint. -/
def unaryRule (op : Kind) (operand : Ty) : Ty × Option Complaint :=
  match unaryRule? op with
  | some (wanted, given) =>
    (given, if operand = wanted then none else some (.needsOperand op wanted))
  | none => (.unknown, none)

/-- The complaint about an argument whose tag is known and is not the one of its parameter. -/
def argumentComplaint (callee : String) (wanted : Ty) (arg : Node) (visit : Visited) :
    List Diagnostic :=
  complainIf (visit.tag != .unknown && visit.tag != wanted)
    (arg.complain (.argumentType wanted visit.tag callee))

/-- The complaints about the arguments of a call, each held against its parameter. -/
def argumentComplaints (callee : String) : List Ty → List Node → List Visited → List Diagnostic
  | wanted :: params, arg :: args, visit :: visits =>
    argumentComplaint callee wanted arg visit ++ argumentComplaints callee params args visits
  | _, _, _ => []

/-- How the arguments of a call are treated: the tag of the call, whether the arguments are
visited, and against which parameters they are held. -/
inductive CallRule where
  /-- Nothing of that name can be called. -/
  | undeclared
  /-- A predefined procedure: any arguments will do. -/
  | anyArguments (result : Ty)
  /-- A function with another number of parameters. -/
  | wrongCount (result : Ty)
  /-- A function with these parameters. -/
  | matched (result : Ty) (params : List Ty)
deriving DecidableEq, Repr

/-- The rule for a call of a name with a number of arguments. -/
def callRule (scope : Scope) (callee : String) (count : Nat) : CallRule :=
  match scope.findFunction? callee with
  | none => .undeclared
  | some sym =>
    if sym.role = .builtin then .anyArguments sym.type
    else if sym.params.length = count then .matched sym.type sym.params
    else .wrongCount sym.type

/-- The complaint about a condition that is known not to be boolean. -/
def conditionComplaint (stmt : Node) (kind : Conditioned) (condition : Visited) :
    List Diagnostic :=
  complainIf (disagree condition.tag .boolean) (stmt.complain (.condition kind))

/-- The complaint about a returned value whose tag is known and is not the one of the function. No
return statement outside a function is complained about. -/
def returnComplaint (scope : Scope) (stmt : Node) (value : Visited) : List Diagnostic :=
  match scope.owner with
  | none => []
  | some owner =>
    complainIf (value.tag != .unknown && value.tag != owner.result)
      (stmt.complain (.returnType value.tag owner.result owner.name))

/-- The complaint about a case value that disagrees with the selector. -/
def caseComplaint (selector : Ty) (value : Node) (visit : Visited)
    (complaint : Ty → Ty → Complaint) : List Diagnostic :=
  complainIf (disagree visit.tag selector) (value.complain (complaint visit.tag selector))

/-! ## Visits -/

/-- Who follows a visit. It is told about the nodes, in the order in which things happen to them. -/
structure Observer (m : Type → Type) where
  /-- A node is entered. -/
  enter : Node → m Unit
  /-- A node may be complained about, and these are the complaints. -/
  blame : Node → List Diagnostic → m Unit
  /-- A tag is written into a node. -/
  write : Node → Ty → m Unit

section Observed

variable {m : Type → Type} [Monad m] (observer : Observer m)

/-- Has the complaints about the arguments of a call followed. -/
def blameArguments (callee : String) : List Ty → List Node → List Visited → m Unit
  | wanted :: params, arg :: args, visit :: visits => do
    observer.blame arg (argumentComplaint callee wanted arg visit)
    blameArguments callee params args visits
  | _, _, _ => return ()

mutual

/-- Visits a node, followed by an observer. -/
def visitWith (scope : Scope) : Node → m Visited
  | .missing => return { node := .missing }
  | node@(.integer tok _ value) => do
    observer.enter node
    observer.write node .integer
    return { node := .integer tok .integer value, tag := .integer }
  | node@(.boolean tok _ value) => do
    observer.enter node
    observer.write node .boolean
    return { node := .boolean tok .boolean value, tag := .boolean }
  | node@(.character tok _ value) => do
    observer.enter node
    observer.write node .char
    return { node := .character tok .char value, tag := .char }
  | node@(.name tok _ name) => do
    observer.enter node
    match scope.findVariable? name with
    | some sym =>
      observer.write node sym.type
      return { node := .name tok sym.type name, tag := sym.type }
    | none =>
      let complaints := [node.complain (.undeclaredVariable name)]
      observer.blame node complaints
      observer.write node .unknown
      return { node := .name tok .unknown name, diagnostics := complaints }
  | node@(.call tok _ callee args) => do
    observer.enter node
    match callRule scope callee args.length with
    | .undeclared =>
      let complaints := [node.complain (.undeclaredFunction callee)]
      observer.blame node complaints
      observer.write node .unknown
      return { node := .call tok .unknown callee args, diagnostics := complaints }
    | .wrongCount result =>
      let complaints := [node.complain (.argumentCount callee)]
      observer.blame node complaints
      observer.write node result
      return { node := .call tok result callee args, tag := result, diagnostics := complaints }
    | .anyArguments result =>
      let visits ← visitAllWith scope args
      observer.write node result
      return { node := .call tok result callee (nodesOf visits), tag := result
               diagnostics := diagnosticsOf visits }
    | .matched result params =>
      let visits ← visitAllWith scope args
      blameArguments observer callee params args visits
      observer.write node result
      return { node := .call tok result callee (nodesOf visits), tag := result
               diagnostics := diagnosticsOf visits ++ argumentComplaints callee params args visits }
  | node@(.binary tok _ op left right) => do
    observer.enter node
    let left ← visitWith scope left
    let right ← visitWith scope right
    let rule := if left.tag = .unknown ∨ right.tag = .unknown then (.unknown, none)
      else binaryRule op left.tag right.tag
    let complaints := (rule.2.map node.complain).toList
    observer.blame node complaints
    observer.write node rule.1
    return { node := .binary tok rule.1 op left.node right.node, tag := rule.1
             diagnostics := left.diagnostics ++ right.diagnostics ++ complaints }
  | node@(.unary tok _ op operand) => do
    observer.enter node
    let operand ← visitWith scope operand
    let rule := if operand.tag = .unknown then (.unknown, none) else unaryRule op operand.tag
    let complaints := (rule.2.map node.complain).toList
    observer.blame node complaints
    observer.write node rule.1
    return { node := .unary tok rule.1 op operand.node, tag := rule.1
             diagnostics := operand.diagnostics ++ complaints }
  | node@(.assign tok target value) => do
    observer.enter node
    let left ← visitWith scope target
    let right ← visitWith scope value
    let complaints := complainIf (disagree left.tag right.tag)
      (node.complain (.assignmentTypes left.tag right.tag))
    observer.blame node complaints
    return { node := .assign tok left.node right.node
             diagnostics := left.diagnostics ++ right.diagnostics ++ complaints }
  | node@(.swap tok left right) => do
    observer.enter node
    let left ← visitWith scope left
    let right ← visitWith scope right
    let complaints := complainIf (disagree left.tag right.tag)
      (node.complain (.swapTypes left.tag right.tag))
    observer.blame node complaints
    return { node := .swap tok left.node right.node
             diagnostics := left.diagnostics ++ right.diagnostics ++ complaints }
  | node@(.conditional tok condition thenBody elseBody) => do
    observer.enter node
    let condition ← visitWith scope condition
    let complaints := conditionComplaint node .ifStatement condition
    observer.blame node complaints
    let thenBody ← visitAllWith scope thenBody
    let elseBody ← visitAllWith scope elseBody
    return { node := .conditional tok condition.node (nodesOf thenBody) (nodesOf elseBody)
             diagnostics := condition.diagnostics ++ complaints ++ diagnosticsOf thenBody ++
               diagnosticsOf elseBody }
  | node@(.forLoop tok start condition step body) => do
    observer.enter node
    let start ← visitWith scope start
    let condition ← visitWith scope condition
    let complaints := conditionComplaint node .forStatement condition
    observer.blame node complaints
    let step ← visitWith scope step
    let body ← visitAllWith scope body
    return { node := .forLoop tok start.node condition.node step.node (nodesOf body)
             diagnostics := start.diagnostics ++ condition.diagnostics ++ complaints ++
               step.diagnostics ++ diagnosticsOf body }
  | node@(.whileLoop tok condition body) => do
    observer.enter node
    let condition ← visitWith scope condition
    let complaints := conditionComplaint node .whileStatement condition
    observer.blame node complaints
    let body ← visitAllWith scope body
    return { node := .whileLoop tok condition.node (nodesOf body)
             diagnostics := condition.diagnostics ++ complaints ++ diagnosticsOf body }
  | node@(.repeatLoop tok body condition) => do
    observer.enter node
    let body ← visitAllWith scope body
    let condition ← visitWith scope condition
    let complaints := conditionComplaint node .repeatStatement condition
    observer.blame node complaints
    return { node := .repeatLoop tok (nodesOf body) condition.node
             diagnostics := diagnosticsOf body ++ condition.diagnostics ++ complaints }
  | node@(.caseOf tok selector clauses otherwise) => do
    observer.enter node
    let complaints := complainIf selector.isLiteral (selector.complain .literalSelector)
    observer.blame selector complaints
    let chosen ← visitWith scope selector
    let clauses ← visitClausesWith scope chosen.tag clauses
    let otherwise ← visitAllWith scope otherwise
    return { node := .caseOf tok chosen.node (clauses.map Prod.fst) (nodesOf otherwise)
             diagnostics := complaints ++ chosen.diagnostics ++ clauses.flatMap Prod.snd ++
               diagnosticsOf otherwise }
  | node@(.returnOf tok value) => do
    observer.enter node
    let value ← visitWith scope value
    let complaints := returnComplaint scope node value
    observer.blame node complaints
    return { node := .returnOf tok value.node, diagnostics := value.diagnostics ++ complaints }

/-- Visits some nodes, one after another, followed by an observer. -/
def visitAllWith (scope : Scope) : List Node → m (List Visited)
  | [] => return []
  | node :: rest => do
    let first ← visitWith scope node
    let others ← visitAllWith scope rest
    return first :: others

/-- Visits some case clauses, one after another, under a selector of a given tag, followed by an
observer. -/
def visitClausesWith (scope : Scope) (selector : Ty) :
    List (Clause Node) → m (List (Clause Node × List Diagnostic))
  | [] => return []
  | ⟨low, high, body⟩ :: rest => do
    let start ← visitWith scope low
    let lowComplaints := caseComplaint selector low start
      (if high.isPresent then .rangeStartType else .caseValueType)
    observer.blame low lowComplaints
    let finish ← visitWith scope high
    let highComplaints := caseComplaint selector high finish .rangeEndType
    observer.blame high highComplaints
    let visits ← visitAllWith scope body
    let others ← visitClausesWith scope selector rest
    return (⟨start.node, finish.node, nodesOf visits⟩,
      start.diagnostics ++ lowComplaints ++ finish.diagnostics ++ highComplaints ++
        diagnosticsOf visits) :: others

end

end Observed

/-- Nobody follows. -/
def Observer.nobody : Observer Id where
  enter _ := return ()
  blame _ _ := return ()
  write _ _ := return ()

/-- Visits a node. -/
def visit (scope : Scope) (node : Node) : Visited := (visitWith .nobody scope node).run

/-- Visits some nodes, one after another. -/
def visitAll (scope : Scope) (nodes : List Node) : List Visited :=
  (visitAllWith .nobody scope nodes).run

/-- Visits some case clauses, one after another, under a selector of a given tag. -/
def visitClauses (scope : Scope) (selector : Ty) (clauses : List (Clause Node)) :
    List (Clause Node × List Diagnostic) :=
  (visitClausesWith .nobody scope selector clauses).run

/-! What a visit gives, form by form. -/

section Given

variable {scope : Scope} {tok : Token} {tag : Ty}

/-- Nothing is made of a missing node. -/
theorem visit_missing : visit scope .missing = { node := .missing } := rfl

/-- A number is an integer. -/
theorem visit_integer {value : Int} :
    visit scope (.integer tok tag value) =
      { node := .integer tok .integer value, tag := .integer } := rfl

/-- A truth value is boolean. -/
theorem visit_boolean {value : Bool} :
    visit scope (.boolean tok tag value) =
      { node := .boolean tok .boolean value, tag := .boolean } := rfl

/-- A character is one. -/
theorem visit_character {value : Char} :
    visit scope (.character tok tag value) =
      { node := .character tok .char value, tag := .char } := rfl

/-- A name has the tag of the variable it means. -/
theorem visit_name {name : String} :
    visit scope (.name tok tag name) =
      match scope.findVariable? name with
      | some sym => { node := .name tok sym.type name, tag := sym.type }
      | none =>
        { node := .name tok .unknown name
          diagnostics := [(Node.name tok tag name).complain (.undeclaredVariable name)] } := by
  unfold visit visitWith
  cases scope.findVariable? name <;> rfl

/-- A call has the tag that its rule gives it. -/
theorem visit_call {callee : String} {args : List Node} :
    visit scope (.call tok tag callee args) =
      match callRule scope callee args.length with
      | .undeclared =>
        { node := .call tok .unknown callee args
          diagnostics := [(Node.call tok tag callee args).complain (.undeclaredFunction callee)] }
      | .wrongCount result =>
        { node := .call tok result callee args, tag := result
          diagnostics := [(Node.call tok tag callee args).complain (.argumentCount callee)] }
      | .anyArguments result =>
        { node := .call tok result callee (nodesOf (visitAll scope args)), tag := result
          diagnostics := diagnosticsOf (visitAll scope args) }
      | .matched result params =>
        { node := .call tok result callee (nodesOf (visitAll scope args)), tag := result
          diagnostics := diagnosticsOf (visitAll scope args) ++
            argumentComplaints callee params args (visitAll scope args) } := by
  unfold visit visitWith
  cases callRule scope callee args.length <;> rfl

/-- A binary operation has the tag that its operator gives it. -/
theorem visit_binary {op : Kind} {left right : Node} :
    visit scope (.binary tok tag op left right) =
      let first := visit scope left
      let second := visit scope right
      let rule := if first.tag = .unknown ∨ second.tag = .unknown then (.unknown, none)
        else binaryRule op first.tag second.tag
      { node := .binary tok rule.1 op first.node second.node, tag := rule.1
        diagnostics := first.diagnostics ++ second.diagnostics ++
          (rule.2.map (Node.binary tok tag op left right).complain).toList } := rfl

/-- A prefix operation has the tag that its operator gives it. -/
theorem visit_unary {op : Kind} {operand : Node} :
    visit scope (.unary tok tag op operand) =
      let only := visit scope operand
      let rule := if only.tag = .unknown then (.unknown, none) else unaryRule op only.tag
      { node := .unary tok rule.1 op only.node, tag := rule.1
        diagnostics := only.diagnostics ++
          (rule.2.map (Node.unary tok tag op operand).complain).toList } := rfl

/-- Both sides of an assignment are visited and compared. -/
theorem visit_assign {target value : Node} :
    visit scope (.assign tok target value) =
      let left := visit scope target
      let right := visit scope value
      { node := .assign tok left.node right.node
        diagnostics := left.diagnostics ++ right.diagnostics ++
          complainIf (disagree left.tag right.tag)
            ((Node.assign tok target value).complain (.assignmentTypes left.tag right.tag)) } := rfl

/-- Both sides of a swap are visited and compared. -/
theorem visit_swap {left right : Node} :
    visit scope (.swap tok left right) =
      let first := visit scope left
      let second := visit scope right
      { node := .swap tok first.node second.node
        diagnostics := first.diagnostics ++ second.diagnostics ++
          complainIf (disagree first.tag second.tag)
            ((Node.swap tok left right).complain (.swapTypes first.tag second.tag)) } := rfl

/-- The condition and both branches of a conditional are visited. -/
theorem visit_conditional {condition : Node} {thenBody elseBody : List Node} :
    visit scope (.conditional tok condition thenBody elseBody) =
      let tested := visit scope condition
      { node := .conditional tok tested.node (nodesOf (visitAll scope thenBody))
          (nodesOf (visitAll scope elseBody))
        diagnostics := tested.diagnostics ++
          conditionComplaint (.conditional tok condition thenBody elseBody) .ifStatement tested ++
          diagnosticsOf (visitAll scope thenBody) ++ diagnosticsOf (visitAll scope elseBody) } :=
  rfl

/-- The head and the body of a loop that counts are visited. -/
theorem visit_forLoop {start condition step : Node} {body : List Node} :
    visit scope (.forLoop tok start condition step body) =
      let begun := visit scope start
      let tested := visit scope condition
      let stepped := visit scope step
      { node := .forLoop tok begun.node tested.node stepped.node (nodesOf (visitAll scope body))
        diagnostics := begun.diagnostics ++ tested.diagnostics ++
          conditionComplaint (.forLoop tok start condition step body) .forStatement tested ++
          stepped.diagnostics ++ diagnosticsOf (visitAll scope body) } := rfl

/-- The condition and the body of a loop that tests first are visited. -/
theorem visit_whileLoop {condition : Node} {body : List Node} :
    visit scope (.whileLoop tok condition body) =
      let tested := visit scope condition
      { node := .whileLoop tok tested.node (nodesOf (visitAll scope body))
        diagnostics := tested.diagnostics ++
          conditionComplaint (.whileLoop tok condition body) .whileStatement tested ++
          diagnosticsOf (visitAll scope body) } := rfl

/-- The body and the condition of a loop that tests last are visited. -/
theorem visit_repeatLoop {body : List Node} {condition : Node} :
    visit scope (.repeatLoop tok body condition) =
      let tested := visit scope condition
      { node := .repeatLoop tok (nodesOf (visitAll scope body)) tested.node
        diagnostics := diagnosticsOf (visitAll scope body) ++ tested.diagnostics ++
          conditionComplaint (.repeatLoop tok body condition) .repeatStatement tested } := rfl

/-- The selector, the clauses and what is left of a case are visited. -/
theorem visit_caseOf {selector : Node} {clauses : List (Clause Node)} {otherwise : List Node} :
    visit scope (.caseOf tok selector clauses otherwise) =
      let chosen := visit scope selector
      { node := .caseOf tok chosen.node ((visitClauses scope chosen.tag clauses).map Prod.fst)
          (nodesOf (visitAll scope otherwise))
        diagnostics := complainIf selector.isLiteral (selector.complain .literalSelector) ++
          chosen.diagnostics ++ (visitClauses scope chosen.tag clauses).flatMap Prod.snd ++
          diagnosticsOf (visitAll scope otherwise) } := rfl

/-- The value of a return is visited. -/
theorem visit_returnOf {value : Node} :
    visit scope (.returnOf tok value) =
      let given := visit scope value
      { node := .returnOf tok given.node
        diagnostics := given.diagnostics ++ returnComplaint scope (.returnOf tok value) given } :=
  rfl

/-- The first node is visited first. -/
theorem visitAll_cons {node : Node} {rest : List Node} :
    visitAll scope (node :: rest) = visit scope node :: visitAll scope rest := rfl

/-- There is no clause to visit. -/
theorem visitClauses_nil {selector : Ty} : visitClauses scope selector [] = [] := rfl

/-- The bounds of a clause are visited and held against the selector, and then its body is. -/
theorem visitClauses_cons {selector : Ty} {clause : Clause Node} {rest : List (Clause Node)} :
    visitClauses scope selector (clause :: rest) =
      (⟨(visit scope clause.low).node, (visit scope clause.high).node,
          nodesOf (visitAll scope clause.body)⟩,
        (visit scope clause.low).diagnostics ++
          caseComplaint selector clause.low (visit scope clause.low)
            (if clause.high.isPresent then .rangeStartType else .caseValueType) ++
          (visit scope clause.high).diagnostics ++
          caseComplaint selector clause.high (visit scope clause.high) .rangeEndType ++
          diagnosticsOf (visitAll scope clause.body)) :: visitClauses scope selector rest := rfl

/-- The tag of a visit is the tag that it writes. -/
theorem tag_visit (node : Node) : (visit scope node).node.tag = (visit scope node).tag := by
  cases node with
  | name tok tag name =>
    rw [visit_name]
    split <;> rfl
  | call tok tag callee args =>
    rw [visit_call]
    split <;> rfl
  | _ => rfl

end Given

end Checker

end WinZig
