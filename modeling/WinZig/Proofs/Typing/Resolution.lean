import WinZig.Proofs.Typing.Programs

/-!
# What names mean

A name means the last thing declared under it, among what is declared in the function around it, or
else among what is declared in the program. Calls look only at what can be called and everything else
only at what cannot, so neither hides the other. Nothing that a function declares is seen outside it.

The symbols of functions and of variables are kept in the same lists, most recent first, and lists
grow while a program is walked through. Here the meaning of a name is said without such lists, and
checking is shown to give names that meaning wherever it comes across one.
-/

namespace WinZig.Typing

open Checker

/-! ## Declarations in order -/

/-- The last symbol of a name in a sequence of declarations. -/
def lastNamed (name : String) (symbols : List Symbol) : Option Symbol :=
  (symbols.filter fun sym => sym.name == name).getLast?

/-- What a function declares for its own body: its name, for the value to be returned, then its
parameters, the members of its types and its variables. -/
def ownDeclarations (function : Function) : List Symbol :=
  .ownVariable function :: (function.params.map (Symbol.ofVariable .parameter) ++
    (function.types.flatMap Symbol.membersOf ++ function.locals.map (Symbol.ofVariable .var)))

/-- What a program declares for all bodies: the variable `d`, the members of its types, and its
variables other than `d`. -/
def globalDeclarations (program : Program) : List Symbol :=
  { name := "d", role := .var, type := .integer, decl := .plain .integer } ::
    (program.types.flatMap Symbol.membersOf ++ (declaredVars program).map (Symbol.ofVariable .var))

/-- The two procedures that need no declaration. -/
def builtins : List Symbol :=
  [{ name := "read", role := .builtin, type := .void },
    { name := "output", role := .builtin, type := .void }]

/-- What names mean in a body. -/
structure Resolution where
  /-- The meaning of a name by itself. -/
  value : String → Option Symbol
  /-- The meaning of a name that is called. -/
  callee : String → Option Symbol

/-- What names mean in the body of a program. -/
def resolutionOutside (program : Program) : Resolution where
  value name := lastNamed name (globalDeclarations program)
  callee name :=
    (lastNamed name (program.functions.map Symbol.ofFunction)).or (lastNamed name builtins)

/-- What names mean in the body of a function, given its index among the functions. -/
def resolutionWithin (program : Program) (index : Nat) (function : Function) : Resolution where
  value name :=
    (lastNamed name (ownDeclarations function)).or (lastNamed name (globalDeclarations program))
  callee name :=
    (lastNamed name ((program.functions.take (index + 1)).map Symbol.ofFunction)).or
      (lastNamed name builtins)

/-- The last symbol of a name is among the later ones, or else among the earlier ones. -/
theorem lastNamed_append (name : String) (symbols others : List Symbol) :
    lastNamed name (symbols ++ others) = (lastNamed name others).or (lastNamed name symbols) := by
  rw [lastNamed, List.filter_append, List.getLast?_append]
  rfl

/-- The last symbol of a name is one of the symbols, and has the name. -/
theorem mem_of_lastNamed {name : String} {symbols : List Symbol} {sym : Symbol}
    (found : lastNamed name symbols = some sym) : sym ∈ symbols ∧ sym.name = name := by
  have member := List.mem_filter.mp (List.mem_of_getLast? found)
  exact ⟨member.1, by simpa using member.2⟩

/-- There is no last symbol of a name that none has. -/
theorem lastNamed_eq_none {name : String} {symbols : List Symbol}
    (others : ∀ sym ∈ symbols, sym.name ≠ name) : lastNamed name symbols = none := by
  rw [lastNamed, List.getLast?_eq_none_iff, List.filter_eq_nil_iff]
  simpa using others

/-! ## Scopes -/

/-- A scope gives all names the meaning that a resolution says. -/
def Gives (scope : Scope) (resolution : Resolution) : Prop :=
  ∀ name, scope.findVariable? name = resolution.value name ∧
    scope.findFunction? name = resolution.callee name

/-- Looking up the most recent symbol of a list finds the last one in the order of declaration, among
those that can, or cannot, be called. -/
theorem find?_isNamed (callable : Bool) (name : String) (symbols : List Symbol) :
    symbols.find? (Scope.isNamed callable name) =
      lastNamed name (symbols.reverse.filter fun sym => sym.role.isCallable == callable) := by
  rw [lastNamed, List.filter_filter, List.getLast?_filter, List.reverse_reverse]
  rfl

/-- Symbols that cannot be called are all variables. -/
theorem filter_plain {symbols : List Symbol}
    (plain : ∀ sym ∈ symbols, sym.role.isCallable = false) :
    (symbols.filter fun sym => sym.role.isCallable == false) = symbols ∧
      (symbols.filter fun sym => sym.role.isCallable == true) = [] := by
  constructor
  · rw [List.filter_eq_self]
    simpa using plain
  · rw [List.filter_eq_nil_iff]
    simpa using plain

/-- Functions are all callable. -/
theorem filter_ofFunction (functions : List Function) :
    ((functions.map Symbol.ofFunction).filter fun sym => sym.role.isCallable == false) = [] ∧
      ((functions.map Symbol.ofFunction).filter fun sym => sym.role.isCallable == true) =
        functions.map Symbol.ofFunction := by
  simp [Symbol.ofFunction, Role.isCallable]

/-- The globals are the declared variables and the built-in procedures. -/
theorem filter_globalSymbols (program : Program) :
    ((globalSymbols program).reverse.filter fun sym => sym.role.isCallable == false) =
        globalDeclarations program ∧
      ((globalSymbols program).reverse.filter fun sym => sym.role.isCallable == true) = builtins := by
  have members := filter_plain (membersOf_plain program.types)
  have vars := filter_plain (ofVariable_plain (declaredVars program) (rfl : Role.var.isCallable = false))
  rw [globalSymbols_reverse]
  simp only [List.filter_append, members, vars]
  exact ⟨rfl, rfl⟩

/-- The locals are the function's own variables. -/
theorem filter_localSymbols (function : Function) :
    ((localSymbols function).reverse.filter fun sym => sym.role.isCallable == false) =
        ownDeclarations function ∧
      ((localSymbols function).reverse.filter fun sym => sym.role.isCallable == true) = [] := by
  have params := filter_plain (ofVariable_plain function.params (rfl : Role.parameter.isCallable = false))
  have members := filter_plain (membersOf_plain function.types)
  have vars := filter_plain (ofVariable_plain function.locals (rfl : Role.var.isCallable = false))
  rw [localSymbols_reverse]
  simp only [List.filter_append, params, members, vars]
  exact ⟨rfl, rfl⟩

/-- Behind all functions, the scope gives names the meaning they have in the body of the program. -/
theorem gives_scopeBehind (program : Program) :
    Gives (scopeBehind program program.functions) (resolutionOutside program) := by
  obtain ⟨plain, callable⟩ := filter_globalSymbols program
  obtain ⟨none, functions⟩ := filter_ofFunction program.functions
  intro name
  simp only [Scope.findVariable?, Scope.findFunction?, Scope.find?, find?_isNamed, scopeBehind,
    List.nil_append, List.reverse_append, List.reverse_reverse, List.filter_append, plain, callable,
    none, functions, List.append_nil, lastNamed_append, resolutionOutside]
  exact ⟨trivial, trivial⟩

/-- Within a function, the scope gives names the meaning they have in the body of the function. -/
theorem gives_scopeWithin {program : Program} {before behind : List Function} {function : Function}
    (cut : program.functions = before ++ function :: behind) :
    Gives (scopeWithin (scopeBehind program before) function)
      (resolutionWithin program before.length function) := by
  have callers : program.functions.take (before.length + 1) = before ++ [function] := by
    rw [cut, List.append_cons]
    exact List.take_left' (by simp)
  have globals : (scopeWithin (scopeBehind program before) function).globals.reverse =
      (globalSymbols program).reverse ++ (before ++ [function]).map Symbol.ofFunction := by
    simp [scopeWithin, scopeBehind]
  have locals : (scopeWithin (scopeBehind program before) function).locals.reverse =
      (localSymbols function).reverse := rfl
  obtain ⟨plain, callable⟩ := filter_globalSymbols program
  obtain ⟨none, functions⟩ := filter_ofFunction (before ++ [function])
  obtain ⟨own, nothing⟩ := filter_localSymbols function
  intro name
  simp only [Scope.findVariable?, Scope.findFunction?, Scope.find?, find?_isNamed,
    List.reverse_append, globals, locals, List.filter_append, plain, callable, none, functions, own,
    nothing, List.append_nil, lastNamed_append, resolutionWithin, callers]
  exact ⟨trivial, trivial⟩

/-! ## Visits -/

/-- Whether the parts of a node are visited: those of a call are if it is of a procedure, or of a
function with that many parameters. -/
def enters (resolution : Resolution) : Node → Bool
  | .call _ _ callee args => (resolution.callee callee).any fun sym =>
      sym.role == .builtin || sym.params.length == args.length
  | _ => true

/-- The nodes of a body that are visited, in the order of visits. -/
def visitedIn (resolution : Resolution) (body : List Node) : List Node :=
  Node.walkAll (enters resolution) body

/-- The type of what a name means, and the empty tag if it means nothing. -/
def typeOf (meaning : Option Symbol) : Ty := (meaning.map Symbol.type).getD .unknown

/-- A name and a call are tagged by what they mean. -/
def TaggedBy (resolution : Resolution) (node checked : Node) : Prop :=
  match node with
  | .name tok _ name => checked = .name tok (typeOf (resolution.value name)) name
  | .call tok _ callee _ =>
    ∃ args, checked = .call tok (typeOf (resolution.callee callee)) callee args
  | _ => True

/-- The complaints about a node that come from what its name means. -/
def complaintsAbout (resolution : Resolution) (node : Node) : List Diagnostic :=
  match node with
  | .name _ _ name =>
    if (resolution.value name).isNone then [node.complain (.undeclaredVariable name)] else []
  | .call _ _ callee _ =>
    if (resolution.callee callee).isNone then [node.complain (.undeclaredFunction callee)]
    else if enters resolution node then []
    else [node.complain (.argumentCount callee)]
  | _ => []

/-- The complaints about the names in a body, in the order of visits. -/
def complaintsIn (resolution : Resolution) (body : List Node) : List Diagnostic :=
  (visitedIn resolution body).flatMap (complaintsAbout resolution)

/-- Whether a complaint is about a name that means nothing, or is called with other than the number
of arguments it takes. -/
def isAboutName (diagnostic : Diagnostic) : Bool :=
  match diagnostic.complaint with
  | .undeclaredVariable _ | .undeclaredFunction _ | .argumentCount _ => true
  | _ => false

section Visits

variable {scope : Scope} {resolution : Resolution}

/-- Visited clauses hold the visited nodes of the clauses. -/
theorem children_visitClauses (selector : Ty) (clauses : List (Clause Node)) :
    ((visitClauses scope selector clauses).map Prod.fst).flatMap
        (fun clause => clause.low :: clause.high :: clause.body) =
      (clauses.flatMap fun clause => clause.low :: clause.high :: clause.body).map
        fun child => (visit scope child).node := by
  induction clauses with
  | nil => rfl
  | cons clause clauses inductionHypothesis =>
    simp [visitClauses_cons, inductionHypothesis, nodesOf_visitAll]

/-! Complaints that are not about names -/

/-- Complaints about names in nodes are those in each of them. -/
theorem filter_diagnosticsOf (nodes : List Node) :
    (diagnosticsOf (visitAll scope nodes)).filter isAboutName =
      nodes.flatMap fun node => (visit scope node).diagnostics.filter isAboutName := by
  rw [diagnosticsOf_visitAll, List.filter_flatMap]

/-- A complaint of another kind is not about a name. -/
theorem filter_complainIf {condition : Bool} {diagnostic : Diagnostic}
    (other : isAboutName diagnostic = false) :
    (complainIf condition diagnostic).filter isAboutName = [] := by
  cases condition <;> simp [complainIf, other]

/-- The complaint of an operator is not about a name. -/
theorem filter_toList {node : Node} {complaint : Option Complaint}
    (other : ∀ only ∈ complaint, isAboutName (node.complain only) = false) :
    (complaint.map node.complain).toList.filter isAboutName = [] := by
  cases complaint with
  | none => rfl
  | some only => simp [other only rfl]

/-- Complaints about arguments are not about names. -/
theorem filter_argumentComplaints (callee : String) (params : List Ty) (args : List Node)
    (visits : List Visited) :
    (argumentComplaints callee params args visits).filter isAboutName = [] := by
  induction params generalizing args visits with
  | nil => rfl
  | cons wanted params inductionHypothesis =>
    cases args with
    | nil => rfl
    | cons arg args =>
      cases visits with
      | nil => rfl
      | cons visit visits =>
        rw [argumentComplaints, List.filter_append, argumentComplaint, filter_complainIf rfl,
          inductionHypothesis, List.append_nil]

/-- Complaints about conditions are not about names. -/
theorem filter_conditionComplaint (stmt : Node) (kind : Conditioned) (condition : Visited) :
    (conditionComplaint stmt kind condition).filter isAboutName = [] := filter_complainIf rfl

/-- Complaints about returns are not about names. -/
theorem filter_returnComplaint (stmt : Node) (value : Visited) :
    (returnComplaint scope stmt value).filter isAboutName = [] := by
  unfold returnComplaint
  split
  · rfl
  · exact filter_complainIf rfl

/-- No binary operator complains about a name. -/
theorem binaryRule_complaint {node : Node} {op : Kind} {left right : Ty} :
    ∀ complaint ∈ (binaryRule op left right).2, isAboutName (node.complain complaint) = false := by
  intro complaint member
  cases op
  all_goals simp only [binaryRule, Option.mem_def, reduceCtorEq] at member
  all_goals
    split at member
    all_goals cases member
    rfl

/-- No unary operator complains about a name. -/
theorem unaryRule_complaint {node : Node} {op : Kind} {operand : Ty} :
    ∀ complaint ∈ (unaryRule op operand).2, isAboutName (node.complain complaint) = false := by
  intro complaint member
  unfold unaryRule at member
  split at member
  · dsimp only at member
    split at member
    all_goals cases member
    rfl
  · cases member

/-- What names have to do with the complaints about clauses comes from the parts of the clauses. -/
theorem filter_visitClauses (selector : Ty) (clauses : List (Clause Node)) :
    ((visitClauses scope selector clauses).flatMap Prod.snd).filter isAboutName =
      (clauses.flatMap fun clause => clause.low :: clause.high :: clause.body).flatMap
        fun child => (visit scope child).diagnostics.filter isAboutName := by
  induction clauses with
  | nil => rfl
  | cons clause clauses inductionHypothesis =>
    have own (value : Node) (complaint : Ty → Ty → Complaint)
        (other : ∀ found wanted, isAboutName (value.complain (complaint found wanted)) = false) :
        (caseComplaint selector value (visit scope value) complaint).filter isAboutName = [] :=
      filter_complainIf (other _ _)
    have low := own clause.low (if clause.high.isPresent then .rangeStartType else .caseValueType)
      fun _ _ => by split <;> rfl
    have high := own clause.high .rangeEndType fun _ _ => rfl
    simp only [visitClauses_cons, List.flatMap_cons, List.filter_append, low, high, List.nil_append,
      filter_diagnosticsOf, inductionHypothesis, List.flatMap_append, List.cons_append,
      List.append_assoc]

variable (gives : Gives scope resolution)

include gives

/-- Whether the arguments of a call are visited, by the rule for the call. -/
theorem enters_call (tok : Token) (tag : Ty) (callee : String) (args : List Node) :
    enters resolution (.call tok tag callee args) =
      match callRule scope callee args.length with
      | .undeclared | .wrongCount _ => false
      | .anyArguments _ | .matched _ _ => true := by
  simp only [enters, callRule, (gives callee).2]
  cases resolution.callee callee with
  | none => rfl
  | some sym =>
    by_cases builtin : sym.role = .builtin
    · simp [builtin]
    · by_cases count : sym.params.length = args.length
      · simp [builtin, count]
      · simp [builtin, count]

/-- A visit visits the children of a node, if it is one whose parts are visited. -/
theorem visit_children (node : Node) :
    enters resolution (visit scope node).node = enters resolution node ∧
      (visit scope node).node.children =
        if enters resolution node then node.children.map fun child => (visit scope child).node
        else node.children := by
  cases node with
  | missing | integer | boolean | character => exact ⟨rfl, rfl⟩
  | name tok tag name =>
    rw [visit_name]
    split <;> exact ⟨rfl, rfl⟩
  | call tok tag callee args =>
    have entered := enters_call gives tok tag callee args
    have count : (nodesOf (visitAll scope args)).length = args.length := by
      simp [nodesOf_visitAll]
    rw [entered, visit_call]
    cases rule : callRule scope callee args.length with
    | undeclared | wrongCount =>
      rw [rule] at entered
      exact ⟨entered, rfl⟩
    | anyArguments | matched =>
      rw [rule] at entered
      constructor
      · simpa [enters, count] using entered
      · simp [Node.children, nodesOf_visitAll]
  | caseOf tok selector clauses otherwise =>
    simp [visit_caseOf, enters, Node.children, children_visitClauses, nodesOf_visitAll]
  | conditional tok condition thenBody elseBody =>
    simp [visit_conditional, enters, Node.children, nodesOf_visitAll]
  | forLoop | whileLoop | repeatLoop =>
    simp [visit_forLoop, visit_whileLoop, visit_repeatLoop, enters, Node.children, nodesOf_visitAll]
  | binary | unary | assign | swap | returnOf => exact ⟨rfl, rfl⟩

/-- One step: the complaints of a visit that are about names are those about the node itself, and
then those of the visits of its parts. -/
theorem filter_visit (node : Node) :
    (visit scope node).diagnostics.filter isAboutName =
      complaintsAbout resolution node ++
        if enters resolution node then
          node.children.flatMap fun child => (visit scope child).diagnostics.filter isAboutName
        else [] := by
  cases node with
  | missing | integer | boolean | character => rfl
  | name tok tag name =>
    simp only [visit_name, (gives name).1, complaintsAbout, enters, Node.children, List.flatMap_nil,
      if_true, List.append_nil]
    cases resolution.value name with
    | none => rfl
    | some sym => rfl
  | call tok tag callee args =>
    have entered := enters_call gives tok tag callee args
    have undeclared : (resolution.callee callee).isNone = true ↔
        callRule scope callee args.length = .undeclared := by
      rw [callRule, (gives callee).2]
      cases resolution.callee callee with
      | none => simp
      | some sym => by_cases builtin : sym.role = .builtin <;> simp [builtin]; split <;> simp
    rw [complaintsAbout, visit_call]
    cases rule : callRule scope callee args.length with
    | undeclared =>
      rw [rule] at entered undeclared
      simp [entered, undeclared, isAboutName, Node.complain]
    | wrongCount result =>
      rw [rule] at entered undeclared
      simp [entered, undeclared, isAboutName, Node.complain]
    | anyArguments result =>
      rw [rule] at entered undeclared
      simp [entered, undeclared, filter_diagnosticsOf, Node.children]
    | matched result params =>
      rw [rule] at entered undeclared
      simp [entered, undeclared, filter_diagnosticsOf, filter_argumentComplaints, Node.children]
  | binary tok tag op left right =>
    have own : ((if (visit scope left).tag = .unknown ∨ (visit scope right).tag = .unknown then
          (.unknown, none)
        else binaryRule op (visit scope left).tag (visit scope right).tag).2.map
          (Node.binary tok tag op left right).complain).toList.filter isAboutName = [] := by
      split
      · rfl
      · exact filter_toList binaryRule_complaint
    simp only [visit_binary, List.filter_append, own, complaintsAbout, enters, Node.children,
      if_true]
    simp
  | unary tok tag op operand =>
    have own : ((if (visit scope operand).tag = .unknown then (.unknown, none)
        else unaryRule op (visit scope operand).tag).2.map
          (Node.unary tok tag op operand).complain).toList.filter isAboutName = [] := by
      split
      · rfl
      · exact filter_toList unaryRule_complaint
    simp only [visit_unary, List.filter_append, own, complaintsAbout, enters, Node.children,
      if_true]
    simp
  | caseOf tok selector clauses otherwise =>
    have own : (complainIf selector.isLiteral (selector.complain .literalSelector)).filter isAboutName =
        [] := filter_complainIf rfl
    simp [visit_caseOf, own, filter_visitClauses, filter_diagnosticsOf, complaintsAbout, enters,
      Node.children]
  | returnOf tok value =>
    simp [visit_returnOf, filter_returnComplaint, complaintsAbout, enters, Node.children]
  | assign tok target value =>
    have own (left right : Ty) : (complainIf (disagree left right)
        ((Node.assign tok target value).complain (.assignmentTypes left right))).filter isAboutName =
          [] := filter_complainIf rfl
    simp [visit_assign, own, complaintsAbout, enters, Node.children]
  | swap tok left right =>
    have own (first second : Ty) : (complainIf (disagree first second)
        ((Node.swap tok left right).complain (.swapTypes first second))).filter isAboutName =
          [] := filter_complainIf rfl
    simp [visit_swap, own, complaintsAbout, enters, Node.children]
  | conditional tok condition thenBody elseBody =>
    simp [visit_conditional, filter_conditionComplaint, filter_diagnosticsOf, complaintsAbout,
      enters, Node.children]
  | forLoop | whileLoop | repeatLoop =>
    simp [visit_forLoop, visit_whileLoop, visit_repeatLoop, filter_conditionComplaint,
      filter_diagnosticsOf, complaintsAbout, enters, Node.children]

/-! Whole bodies, by induction on the children of nodes. -/

/-- The nodes visited in what a visit gives are what the visits of the nodes give. -/
theorem walk_visit (node : Node) :
    Node.walk (enters resolution) (visit scope node).node =
      (Node.walk (enters resolution) node).map fun inner => (visit scope inner).node := by
  induction node using Node.children_induction with
  | step node inductionHypothesis =>
    obtain ⟨entered, children⟩ := visit_children gives node
    cases missing : node.isPresent with
    | false =>
      cases node with
      | missing => rfl
      | _ => exact absurd missing (by simp [Node.isPresent])
    | true =>
      rw [Node.walk_eq _ _ ((isPresent_visit node).trans missing), Node.walk_eq _ _ missing, entered, children,
        List.map_cons]
      cases enters resolution node with
      | false => rfl
      | true =>
        simp only [if_true, List.flatMap_map, List.map_flatMap]
        congr 1
        exact List.flatMap_congr inductionHypothesis

/-- The complaints of a visit that are about names are those about the visited nodes, in order. -/
theorem filter_visit_eq (node : Node) :
    (visit scope node).diagnostics.filter isAboutName =
      (Node.walk (enters resolution) node).flatMap (complaintsAbout resolution) := by
  induction node using Node.children_induction with
  | step node inductionHypothesis =>
    rw [filter_visit gives]
    cases missing : node.isPresent with
    | false =>
      cases node with
      | missing => rfl
      | _ => exact absurd missing (by simp [Node.isPresent])
    | true =>
      rw [Node.walk_eq _ _ missing, List.flatMap_cons]
      cases enters resolution node with
      | false => rfl
      | true =>
        simp only [if_true, List.flatMap_assoc]
        congr 1
        exact List.flatMap_congr inductionHypothesis

/-- A visit tags a name and a call by what they mean. -/
theorem taggedBy_visit (node : Node) : TaggedBy resolution node (visit scope node).node := by
  cases node with
  | name tok tag name =>
    unfold TaggedBy
    dsimp only
    rw [visit_name, (gives name).1]
    cases resolution.value name <;> rfl
  | call tok tag callee args =>
    unfold TaggedBy
    dsimp only
    rw [visit_call, callRule, (gives callee).2]
    cases resolution.callee callee with
    | none => exact ⟨args, rfl⟩
    | some sym =>
      by_cases builtin : sym.role = .builtin
      · simp [builtin, typeOf]
      · by_cases count : sym.params.length = args.length
        · simp [builtin, count, typeOf]
        · simp [builtin, count, typeOf]
  | _ => trivial

/-- What is reached in a visited body is what was reached in it, visited. -/
theorem visitedIn_visitAll (body : List Node) :
    visitedIn resolution (nodesOf (visitAll scope body)) =
      (visitedIn resolution body).map fun node => (visit scope node).node := by
  unfold visitedIn
  rw [nodesOf_visitAll, Node.walkAll_eq_flatMap, Node.walkAll_eq_flatMap, List.flatMap_map,
    List.map_flatMap]
  exact List.flatMap_congr fun node _ => walk_visit gives node

/-- The complaints about names in a body are those its resolution makes. -/
theorem filter_visitAll (body : List Node) :
    (diagnosticsOf (visitAll scope body)).filter isAboutName = complaintsIn resolution body := by
  unfold complaintsIn visitedIn
  rw [filter_diagnosticsOf, Node.walkAll_eq_flatMap, List.flatMap_assoc]
  exact List.flatMap_congr fun node _ => filter_visit_eq gives node

end Visits

/-! ## Programs -/

/-- A body is checked in a scope that gives names the meaning of a resolution, and the names and calls
that are visited are tagged by what they mean. -/
structure CheckedUnder (resolution : Resolution) (body checked : List Node) : Prop where
  visits : ∃ scope, Gives scope resolution ∧ checked = nodesOf (visitAll scope body)
  tags : List.Forall₂ (TaggedBy resolution) (visitedIn resolution body) (visitedIn resolution checked)

/-- A visited body is checked under its resolution. -/
theorem checkedUnder_visitAll {scope : Scope} {resolution : Resolution}
    (gives : Gives scope resolution) (body : List Node) :
    CheckedUnder resolution body (nodesOf (visitAll scope body)) where
  visits := ⟨scope, gives, rfl⟩
  tags := by
    rw [visitedIn_visitAll gives, List.forall₂_map_right_iff, List.forall₂_same]
    exact fun node _ => taggedBy_visit gives node

/-- The complaints about names that have been collected. -/
def aboutNames (checker : Checker) : List Diagnostic := checker.diagnostics.filter isAboutName

section Programs

variable {checker : Checker} {program : Program} {before : List Function}

/-- Steps that add no complaint about a name add none together. -/
theorem aboutNames_foldl {α : Type} {step : Checker → α → Checker}
    (keeps : ∀ checker item, aboutNames (step checker item) = aboutNames checker) (items : List α)
    (checker : Checker) : aboutNames (items.foldl step checker) = aboutNames checker := by
  induction items generalizing checker with
  | nil => rfl
  | cons item items inductionHypothesis =>
    rw [List.foldl_cons, inductionHypothesis, keeps]

/-- Declaring a global says nothing about a name that is used. -/
theorem aboutNames_declareGlobal (checker : Checker) (declared : Variable) :
    aboutNames (declareGlobal checker declared) = aboutNames checker := by
  unfold declareGlobal
  split
  · rfl
  · dsimp only
    split
    · simp [aboutNames, complain, isAboutName]
    · rfl

/-- Declaring a local says nothing about a name that is used. -/
theorem aboutNames_declareLocal (role : Role) (checker : Checker) (declared : Variable) :
    aboutNames (declareLocal role checker declared) = aboutNames checker := by
  unfold declareLocal
  dsimp only
  split
  · simp [aboutNames, complain, isAboutName]
  · split <;> rfl

/-- Entering a function says nothing about a name that is used. -/
theorem aboutNames_entered (checker : Checker) (function : Function) :
    aboutNames (entered checker function) = aboutNames checker := by
  have types : ∀ checker definition,
      aboutNames (declareLocalType checker definition) = aboutNames checker := fun _ _ => rfl
  rw [entered, aboutNames_foldl (aboutNames_declareLocal .var), aboutNames_foldl types,
    aboutNames_foldl (aboutNames_declareLocal .parameter)]
  rfl

/-- Declaring complains about no name. -/
theorem aboutNames_declared (checker : Checker) (program : Program) :
    aboutNames (declared checker program) = [] := by
  have types : ∀ checker definition,
      aboutNames (declareType checker definition) = aboutNames checker := fun _ _ => rfl
  rw [declared, aboutNames_foldl aboutNames_declareGlobal, aboutNames_foldl types]
  rfl

/-- One step: checking a function adds the complaints about names in its body. -/
theorem aboutNames_checkFunction {function : Function} {behind : List Function}
    (cut : program.functions = before ++ function :: behind)
    (place : checker.scope = scopeBehind program before) :
    aboutNames (checker.checkFunction function).2 =
      aboutNames checker ++ complaintsIn (resolutionWithin program before.length function)
        function.body := by
  have body := filter_visitAll (gives_scopeWithin cut) function.body
  rw [aboutNames, checkFunction_diagnostics, List.filter_append, place, body]
  congr 1
  exact aboutNames_entered checker function

/-- The whole run over the functions, by induction on those that are left. -/
theorem aboutNames_checkFunctions {functions : List Function}
    (cut : program.functions = before ++ functions)
    (place : checker.scope = scopeBehind program before) :
    aboutNames (checker.checkFunctions functions).2 =
      aboutNames checker ++ (functions.mapIdx fun index function =>
        complaintsIn (resolutionWithin program (before.length + index) function)
          function.body).flatten := by
  induction functions generalizing checker before with
  | nil => simp [checkFunctions_nil]
  | cons function functions inductionHypothesis =>
    have others := inductionHypothesis (by rw [cut, List.append_cons]) (checkFunction_place place)
    rw [aboutNames_checkFunction cut place] at others
    simp only [List.length_append, List.length_singleton, Nat.add_assoc, List.append_assoc,
      Nat.add_comm 1] at others
    rw [List.mapIdx_cons, List.flatten_cons]
    exact others

/-- What can be seen of a name in a body was declared in the function around it or in the program. -/
theorem declared_of_value {index : Nat} {function : Function} {name : String} {sym : Symbol}
    (found : (resolutionWithin program index function).value name = some sym) :
    sym.name = name ∧ (sym ∈ ownDeclarations function ∨ sym ∈ globalDeclarations program) := by
  rcases Option.or_eq_some_iff.mp found with own | ⟨-, outer⟩
  · obtain ⟨member, same⟩ := mem_of_lastNamed own
    exact ⟨same, .inl member⟩
  · obtain ⟨member, same⟩ := mem_of_lastNamed outer
    exact ⟨same, .inr member⟩

/-- The variable `d` of the program is an integer, whatever else the program declares: members of
types are integers, and no other variable is called so. -/
theorem typeOf_discard (program : Program) :
    typeOf ((resolutionOutside program).value "d") = .integer := by
  have integers : ∀ sym ∈ globalDeclarations program, sym.name = "d" → sym.type = .integer := by
    unfold globalDeclarations
    rw [List.forall_mem_cons, List.forall_mem_append]
    refine ⟨fun _ => rfl, ?_, ?_⟩
    · intro sym member _
      obtain ⟨definition, -, named⟩ := List.mem_flatMap.mp member
      obtain ⟨name, -, rfl⟩ := List.mem_map.mp named
      rfl
    · intro sym member same
      obtain ⟨declared, listed, rfl⟩ := List.mem_map.mp member
      exact absurd same (of_decide_eq_true (List.mem_filter.mp listed).2)
  change typeOf (lastNamed "d" (globalDeclarations program)) = .integer
  cases found : lastNamed "d" (globalDeclarations program) with
  | none =>
    rw [lastNamed, List.getLast?_eq_none_iff] at found
    simp [globalDeclarations] at found
  | some sym =>
    obtain ⟨member, same⟩ := mem_of_lastNamed found
    exact integers sym member same

/-- Names are resolved as they are declared. Every body is checked in a scope that gives names the
meaning of the last declaration that can be seen from it; the names and calls that are visited are
tagged by that meaning; and the complaints about names are exactly those about the visited names and
calls that mean nothing, or mean something with another number of parameters, in the order of visits.

It follows that what a name means in a function was declared there or in the program, so that no
function sees what another declares and the program sees nothing of any, and that `d` is an integer
wherever the function around it does not declare it.

Proof: the scope of a body lists the declarations in reverse, functions and variables mixed, and a
look-up skips the symbols of the other sort. The visits of a body all take place in one scope, so
tags and complaints follow by induction on the children of its nodes; declarations add no complaint
about a name. -/
theorem names_resolve (checker : Checker) (program : Program) :
    (∀ index function, program.functions[index]? = some function →
      ∃ checked, (checker.check program).1.functions[index]? = some checked ∧
        CheckedUnder (resolutionWithin program index function) function.body checked.body) ∧
    CheckedUnder (resolutionOutside program) program.body (checker.check program).1.body ∧
    (checker.check program).2.diagnostics.filter isAboutName =
      (program.functions.mapIdx fun index function =>
        complaintsIn (resolutionWithin program index function) function.body).flatten ++
        complaintsIn (resolutionOutside program) program.body ∧
    (∀ index function name sym, (resolutionWithin program index function).value name = some sym →
      sym.name = name ∧ (sym ∈ ownDeclarations function ∨ sym ∈ globalDeclarations program)) ∧
    (∀ name sym, (resolutionOutside program).value name = some sym →
      sym ∈ globalDeclarations program ∧ sym.name = name) ∧
    typeOf ((resolutionOutside program).value "d") = .integer ∧
    (∀ index function, (∀ sym ∈ ownDeclarations function, sym.name ≠ "d") →
      typeOf ((resolutionWithin program index function).value "d") = .integer) := by
  have place := declared_scope checker program
  refine ⟨?_, ?_, ?_, ?_, ?_, typeOf_discard program, ?_⟩
  · intro index function listed
    obtain ⟨inside, rfl⟩ := List.getElem?_eq_some_iff.mp listed
    have cut : program.functions = program.functions.take index ++
        program.functions[index] :: program.functions.drop (index + 1) := by simp
    have length : (program.functions.take index).length = index :=
      List.length_take_of_le (Nat.le_of_lt inside)
    have tagged := checkFunctions_tagged place _ _ _ cut
    have gives := gives_scopeWithin cut
    rw [length] at tagged gives
    exact ⟨_, tagged, checkedUnder_visitAll gives program.functions[index].body⟩
  · rw [check_body]
    exact checkedUnder_visitAll (gives_scopeBehind program) program.body
  · have functions := aboutNames_checkFunctions (List.nil_append program.functions).symm place
    rw [aboutNames_declared, List.nil_append] at functions
    simp only [List.length_nil, Nat.zero_add] at functions
    rw [check_diagnostics, List.filter_append, filter_visitAll (gives_scopeBehind program)]
    exact congrArg (· ++ _) functions
  · exact fun _ _ _ _ => declared_of_value
  · exact fun _ _ => mem_of_lastNamed
  · intro index function others
    have outer : (resolutionWithin program index function).value "d" =
        (resolutionOutside program).value "d" := by
      simp [resolutionWithin, resolutionOutside, lastNamed_eq_none others]
    rw [outer, typeOf_discard]

end Programs

end WinZig.Typing
