import WinZig.Proofs.Renaming
import WinZig.Proofs.Typing.Programs

/-!
# Checking programs with other names

Checking compares names and does nothing else with them. When the names of a program are changed and
different names stay different, the checked program is the checked one with its names changed, and
complaints, notices and symbols are the same ones under the other names.

The predefined names have to stay what they are, since a program may use them without declaring them,
and one of them is never declared again.
-/

namespace WinZig.Typing

open Checker

/-! ## Complaints -/

section Complaints

variable (rename : String → String)

/-- A complaint made for one reason is renamed with its node. -/
theorem complainIf_renamed (condition : Bool) (node : Node) (complaint : Complaint) :
    complainIf condition ((node.renamed rename).complain (complaint.renamed rename)) =
      (complainIf condition (node.complain complaint)).map (Diagnostic.renamed rename) := by
  cases condition with
  | false => rfl
  | true => exact congrArg (fun only => [only]) (Node.complain_renamed node complaint)

/-- A complaint in which nothing is named, where there is one. -/
theorem toList_renamed (node : Node) {complaint : Option Complaint}
    (plain : complaint.map (Complaint.renamed rename) = complaint) :
    (complaint.map (node.renamed rename).complain).toList =
      (complaint.map node.complain).toList.map (Diagnostic.renamed rename) := by
  cases complaint with
  | none => rfl
  | some only =>
    have same : only.renamed rename = only := Option.some.inj plain
    simp only [Option.map_some, Option.toList_some, List.map_cons, List.map_nil,
      ← Node.complain_renamed, same]

/-- No complaint about the operands of an operator names anything. -/
theorem binaryRule_renamed (op : Kind) (left right : Ty) :
    (binaryRule op left right).2.map (Complaint.renamed rename) = (binaryRule op left right).2 := by
  unfold binaryRule
  split <;> first | rfl | (dsimp only; split <;> rfl)

/-- The complaint of a unary operator names nothing. -/
theorem unaryRule_renamed (op : Kind) (operand : Ty) :
    (unaryRule op operand).2.map (Complaint.renamed rename) = (unaryRule op operand).2 := by
  unfold unaryRule
  split
  · dsimp only
    split <;> rfl
  · rfl

/-- The complaint about a condition is renamed with it. -/
theorem conditionComplaint_renamed (stmt : Node) (kind : Conditioned) (condition : Visited) :
    conditionComplaint (stmt.renamed rename) kind (condition.renamed rename) =
      (conditionComplaint stmt kind condition).map (Diagnostic.renamed rename) :=
  complainIf_renamed rename _ stmt (.condition kind)

/-- The complaint about a return is renamed with it. -/
theorem returnComplaint_renamed (scope : Scope) (stmt : Node) (value : Visited) :
    returnComplaint (scope.renamed rename) (stmt.renamed rename) (value.renamed rename) =
      (returnComplaint scope stmt value).map (Diagnostic.renamed rename) := by
  obtain ⟨globals, locals, owner⟩ := scope
  cases owner with
  | none => rfl
  | some owner =>
    exact complainIf_renamed rename _ stmt (.returnType value.tag owner.result owner.name)

/-- The complaint about a value of a case is renamed with it. -/
theorem caseComplaint_renamed (selector : Ty) (value : Node) (visit : Visited)
    {complaint : Ty → Ty → Complaint}
    (plain : ∀ found wanted, (complaint found wanted).renamed rename = complaint found wanted) :
    caseComplaint selector (value.renamed rename) (visit.renamed rename) complaint =
      (caseComplaint selector value visit complaint).map (Diagnostic.renamed rename) := by
  unfold caseComplaint
  rw [← complainIf_renamed, plain]
  rfl

/-- Complaints about arguments, by induction on the parameters they are held against. -/
theorem argumentComplaints_renamed (callee : String) (params : List Ty) (args : List Node)
    (visits : List Visited) :
    argumentComplaints (rename callee) params (args.map (Node.renamed rename))
        (visits.map (Visited.renamed rename)) =
      (argumentComplaints callee params args visits).map (Diagnostic.renamed rename) := by
  induction params generalizing args visits with
  | nil => rfl
  | cons wanted params inductionHypothesis =>
    cases args with
    | nil => rfl
    | cons arg args =>
      cases visits with
      | nil => rfl
      | cons visit visits =>
        simp only [List.map_cons, argumentComplaints, List.map_append, inductionHypothesis]
        congr 1
        exact complainIf_renamed rename _ arg (.argumentType wanted visit.tag callee)

/-- The nodes of renamed visits are renamed. -/
theorem nodesOf_renamed (visits : List Visited) :
    nodesOf (visits.map (Visited.renamed rename)) = (nodesOf visits).map (Node.renamed rename) := by
  simp [nodesOf, Visited.renamed]

/-- The complaints of renamed visits are renamed. -/
theorem diagnosticsOf_renamed (visits : List Visited) :
    diagnosticsOf (visits.map (Visited.renamed rename)) =
      (diagnosticsOf visits).map (Diagnostic.renamed rename) := by
  simp [diagnosticsOf, Visited.renamed, List.flatMap_map, List.map_flatMap]

end Complaints

section Injective

variable {rename : String → String} (injective : Function.Injective rename)

include injective

/-! ## Scopes -/

/-- A renamed symbol has a renamed name exactly when it had the name. -/
theorem isNamed_renamed (callable : Bool) (name : String) (sym : Symbol) :
    Scope.isNamed callable (rename name) (sym.renamed rename) =
      Scope.isNamed callable name sym := by
  simp only [Scope.isNamed, Symbol.renamed, injective.beq_eq]

/-- A renamed name means what the name meant, under its other name. -/
theorem find?_renamed (scope : Scope) (callable : Bool) (name : String) :
    (scope.renamed rename).find? callable (rename name) =
      (scope.find? callable name).map (Symbol.renamed rename) := by
  simp only [Scope.find?, Scope.renamed, ← List.map_append, List.find?_map]
  congr 2
  funext sym
  exact isNamed_renamed injective callable name sym

/-- A renamed name is found exactly when the name was. -/
theorem any_renamed (symbols : List Symbol) (name : String) :
    (symbols.map (Symbol.renamed rename)).any (Scope.isNamed false (rename name)) =
      symbols.any (Scope.isNamed false name) := by
  rw [List.any_map]
  congr 1
  funext sym
  exact isNamed_renamed injective false name sym

/-- Rules for calls do not depend on what the callee is called. -/
theorem callRule_renamed (scope : Scope) (callee : String) (count : Nat) :
    callRule (scope.renamed rename) (rename callee) count = callRule scope callee count := by
  unfold callRule Scope.findFunction?
  rw [find?_renamed injective]
  cases scope.find? true callee <;> rfl

/-- Whether a name is a global does not depend on what it is called. -/
theorem isGlobalVariable_renamed (scope : Scope) (name : String) :
    isGlobalVariable (scope.renamed rename) (rename name) = isGlobalVariable scope name := by
  simp only [isGlobalVariable, Scope.findVariable?, find?_renamed injective, Option.any_map]
  rfl

end Injective

/-! ## Visits -/

section Visits

variable {rename : String → String} {scope : Scope}

mutual

/-- Visiting a renamed node is visiting the node and renaming what comes of it. -/
theorem visit_renamed (injective : Function.Injective rename) (node : Node) :
    visit (scope.renamed rename) (node.renamed rename) = (visit scope node).renamed rename := by
  cases node with
  | missing | integer | boolean | character => rfl
  | name tok tag name =>
    simp only [Node.renamed, visit_name, Scope.findVariable?, find?_renamed injective]
    cases scope.find? false name <;> rfl
  | call tok tag callee args =>
    simp only [Node.renamed, visit_call, Node.renamedAll_eq_map, List.length_map,
      callRule_renamed injective]
    cases callRule scope callee args.length with
    | undeclared | wrongCount =>
      simp only [Visited.renamed, Node.renamed, Node.renamedAll_eq_map]
      rfl
    | anyArguments result =>
      simp only [visitAll_renamed injective args, nodesOf_renamed, diagnosticsOf_renamed,
        Visited.renamed, Node.renamed, Node.renamedAll_eq_map]
    | matched result params =>
      simp only [visitAll_renamed injective args, nodesOf_renamed, diagnosticsOf_renamed,
        argumentComplaints_renamed, Visited.renamed, Node.renamed, Node.renamedAll_eq_map,
        List.map_append]
  | binary tok tag op left right =>
    have plain := binaryRule_renamed rename op (visit scope left).tag (visit scope right).tag
    simp only [Node.renamed, visit_binary, visit_renamed injective left,
      visit_renamed injective right, Visited.renamed, List.map_append]
    split
    · rfl
    · congr 2
      exact toList_renamed rename (.binary tok tag op left right) plain
  | unary tok tag op operand =>
    have plain := unaryRule_renamed rename op (visit scope operand).tag
    simp only [Node.renamed, visit_unary, visit_renamed injective operand, Visited.renamed,
      List.map_append]
    split
    · rfl
    · congr 2
      exact toList_renamed rename (.unary tok tag op operand) plain
  | assign tok target value =>
    simp only [Node.renamed, visit_assign, visit_renamed injective target,
      visit_renamed injective value, Visited.renamed, List.map_append]
    congr 2
    exact complainIf_renamed rename _ (.assign tok target value) (.assignmentTypes _ _)
  | swap tok left right =>
    simp only [Node.renamed, visit_swap, visit_renamed injective left,
      visit_renamed injective right, Visited.renamed, List.map_append]
    congr 2
    exact complainIf_renamed rename _ (.swap tok left right) (.swapTypes _ _)
  | conditional tok condition thenBody elseBody =>
    have own := conditionComplaint_renamed rename (.conditional tok condition thenBody elseBody)
      .ifStatement (visit scope condition)
    simp only [Node.renamed, Node.renamedAll_eq_map] at own
    simp only [Node.renamed, visit_conditional, Visited.renamed, Node.renamedAll_eq_map,
      List.map_append, visit_renamed injective condition, visitAll_renamed injective thenBody,
      visitAll_renamed injective elseBody, nodesOf_renamed, diagnosticsOf_renamed, ← own]
  | forLoop tok start condition step body =>
    have own := conditionComplaint_renamed rename (.forLoop tok start condition step body)
      .forStatement (visit scope condition)
    simp only [Node.renamed, Node.renamedAll_eq_map] at own
    simp only [Node.renamed, visit_forLoop, Visited.renamed, Node.renamedAll_eq_map,
      List.map_append, visit_renamed injective start, visit_renamed injective condition,
      visit_renamed injective step, visitAll_renamed injective body, nodesOf_renamed,
      diagnosticsOf_renamed, ← own]
  | whileLoop tok condition body =>
    have own := conditionComplaint_renamed rename (.whileLoop tok condition body) .whileStatement
      (visit scope condition)
    simp only [Node.renamed, Node.renamedAll_eq_map] at own
    simp only [Node.renamed, visit_whileLoop, Visited.renamed, Node.renamedAll_eq_map,
      List.map_append, visit_renamed injective condition, visitAll_renamed injective body,
      nodesOf_renamed, diagnosticsOf_renamed, ← own]
  | repeatLoop tok body condition =>
    have own := conditionComplaint_renamed rename (.repeatLoop tok body condition) .repeatStatement
      (visit scope condition)
    simp only [Node.renamed, Node.renamedAll_eq_map] at own
    simp only [Node.renamed, visit_repeatLoop, Visited.renamed, Node.renamedAll_eq_map,
      List.map_append, visit_renamed injective condition, visitAll_renamed injective body,
      nodesOf_renamed, diagnosticsOf_renamed, ← own]
  | caseOf tok selector clauses otherwise =>
    have own := complainIf_renamed rename selector.isLiteral selector .literalSelector
    simp only [Node.renamed, visit_caseOf, Visited.renamed, Node.renamedAll_eq_map, List.map_append,
      Node.renamedClauses_eq_map, visit_renamed injective selector,
      visitClauses_renamed injective _ clauses, visitAll_renamed injective otherwise,
      nodesOf_renamed, diagnosticsOf_renamed, Node.isLiteral_renamed, ← own, List.map_map,
      List.flatMap_map, List.map_flatMap]
    rfl
  | returnOf tok value =>
    simp only [Node.renamed, visit_returnOf, visit_renamed injective value, Visited.renamed,
      List.map_append]
    congr 2
    exact returnComplaint_renamed rename scope (.returnOf tok value) (visit scope value)

/-- Renamed nodes are visited as renamed ones. -/
theorem visitAll_renamed (injective : Function.Injective rename) (nodes : List Node) :
    visitAll (scope.renamed rename) (nodes.map (Node.renamed rename)) =
      (visitAll scope nodes).map (Visited.renamed rename) := by
  cases nodes with
  | nil => rfl
  | cons node rest =>
    simp only [List.map_cons, visitAll_cons, visit_renamed injective node,
      visitAll_renamed injective rest]

/-- Renamed clauses are visited as renamed ones. -/
theorem visitClauses_renamed (injective : Function.Injective rename) (selector : Ty)
    (clauses : List (Clause Node)) :
    visitClauses (scope.renamed rename) selector (clauses.map (Clause.renamed rename)) =
      (visitClauses scope selector clauses).map
        (Prod.map (Clause.renamed rename) (List.map (Diagnostic.renamed rename))) := by
  cases clauses with
  | nil => rfl
  | cons clause rest =>
    obtain ⟨low, high, body⟩ := clause
    simp only [List.map_cons, visitClauses_cons, Clause.renamed, visit_renamed injective low,
      visit_renamed injective high, visitAll_renamed injective body,
      visitClauses_renamed injective selector rest, Node.isPresent_renamed, nodesOf_renamed,
      diagnosticsOf_renamed, Prod.map]
    rw [caseComplaint_renamed rename selector low _ fun _ _ => by split <;> rfl,
      caseComplaint_renamed rename selector high _ fun _ _ => rfl]
    simp [Visited.renamed]

end

end Visits

/-! ## Declarations -/

section Declarations

variable {rename : String → String}

/-- A step that commutes with renaming does so over a whole list. -/
theorem foldl_renamed {α : Type} {step : Checker → α → Checker} {change : α → α}
    (commutes : ∀ checker item,
      step (checker.renamed rename) (change item) = (step checker item).renamed rename)
    (items : List α) (checker : Checker) :
    (items.map change).foldl step (checker.renamed rename) =
      (items.foldl step checker).renamed rename := by
  rw [List.foldl_map]
  exact List.foldl_hom (Checker.renamed rename) commutes

/-- What is remarked on a declaration is remarked on it under another name. -/
theorem raised_renamed (shown : Warning → Bool) (tok : Token) (remark : Remark) :
    (Notice.raised shown tok remark).map (Notice.renamed rename) =
      Notice.raised shown tok (remark.renamed rename) := by
  have warning : (remark.renamed rename).warning = remark.warning := by
    cases remark <;> rfl
  unfold Notice.raised
  rw [warning]
  split <;> rfl

/-- Members of a renamed type are renamed. -/
theorem membersOf_renamed (definition : TypeDef) :
    Symbol.membersOf (definition.renamed rename) =
      (Symbol.membersOf definition).map (Symbol.renamed rename) := by
  simp [Symbol.membersOf, TypeDef.renamed, Symbol.renamed, TypeRef.renamed]

/-- The symbol of a renamed variable is renamed. -/
theorem ofVariable_renamed (rename : String → String) (role : Role) (declared : Variable) :
    Symbol.ofVariable role (declared.renamed rename) =
      (Symbol.ofVariable role declared).renamed rename := by
  simp [Symbol.ofVariable, Variable.renamed, Symbol.renamed]

/-- Declaring a renamed type is declaring it and renaming. -/
theorem declareType_renamed (rename : String → String) (checker : Checker) (definition : TypeDef) :
    declareType (checker.renamed rename) (definition.renamed rename) =
      (declareType checker definition).renamed rename := by
  simp [declareType, foldl_addGlobal, membersOf_renamed, Checker.renamed, Scope.renamed]

/-- Declaring a renamed local type is declaring it and renaming. -/
theorem declareLocalType_renamed (rename : String → String) (checker : Checker)
    (definition : TypeDef) :
    declareLocalType (checker.renamed rename) (definition.renamed rename) =
      (declareLocalType checker definition).renamed rename := by
  simp [declareLocalType, foldl_addLocal, membersOf_renamed, Checker.renamed, Scope.renamed]

variable (injective : Function.Injective rename) (discarded : rename discard = discard)

include injective discarded

/-- The name that is discarded is renamed to itself, and no other name is renamed to it. -/
theorem eq_discard_renamed (name : String) : rename name = discard ↔ name = discard := by
  conv_lhs => rw [← discarded]
  exact injective.eq_iff

/-- Declaring a renamed global is declaring it and renaming. -/
theorem declareGlobal_renamed (checker : Checker) (declared : Variable) :
    declareGlobal (checker.renamed rename) (declared.renamed rename) =
      (declareGlobal checker declared).renamed rename := by
  have taken := any_renamed injective checker.scope.globals declared.name
  have sym := ofVariable_renamed rename .var declared
  unfold declareGlobal
  simp only [Variable.renamed, eq_discard_renamed injective discarded, Checker.renamed,
    Scope.renamed, taken] at sym ⊢
  split
  · rfl
  · cases checker.scope.globals.any (Scope.isNamed false declared.name) <;>
      simp [complain, Scope.addGlobal, sym, Diagnostic.renamed, Complaint.renamed]

/-- Declaring a renamed local is declaring it and renaming. -/
theorem declareLocal_renamed (role : Role) (checker : Checker) (declared : Variable) :
    declareLocal role (checker.renamed rename) (declared.renamed rename) =
      (declareLocal role checker declared).renamed rename := by
  have taken := any_renamed injective checker.scope.locals declared.name
  have hides := isGlobalVariable_renamed injective checker.scope declared.name
  have sym := ofVariable_renamed rename role declared
  unfold declareLocal
  simp only [Variable.renamed, ne_eq, eq_discard_renamed injective discarded, Checker.renamed,
    Scope.renamed, taken] at sym hides ⊢
  rw [hides]
  cases checker.scope.locals.any (Scope.isNamed false declared.name) with
  | true => simp [complain, Scope.addLocal, sym, Diagnostic.renamed, Complaint.renamed]
  | false =>
    by_cases noted : ¬ declared.name = discard ∧ isGlobalVariable checker.scope declared.name
    · simp [noted, note, Scope.addLocal, sym, raised_renamed, Remark.renamed]
    · simp [noted, Scope.addLocal, sym]

end Declarations

/-! ## Programs -/

section Programs

variable {rename : String → String}

/-- Renaming keeps whether there is a return. -/
theorem hasReturn_renamed (body : List Node) :
    hasReturn (body.map (Node.renamed rename)) = hasReturn body :=
  hasReturn_map Node.isPresent_renamed Node.children_renamed Node.isReturn_renamed body

variable (injective : Function.Injective rename)

include injective

/-- Checking a renamed body is checking it and renaming. -/
theorem checkBody_renamed (checker : Checker) (body : List Node) :
    (checker.renamed rename).checkBody (body.map (Node.renamed rename)) =
      ((checker.checkBody body).1.map (Node.renamed rename),
        (checker.checkBody body).2.renamed rename) := by
  simp only [checkBody_eq, Checker.renamed, visitAll_renamed injective, nodesOf_renamed,
    diagnosticsOf_renamed, List.map_append]

variable (discarded : rename discard = discard)

include discarded

/-- Entering a renamed function is entering it and renaming. -/
theorem entered_renamed (checker : Checker) (function : Function) :
    entered (checker.renamed rename) (function.renamed rename) =
      (entered checker function).renamed rename := by
  have opened : { checker.renamed rename with
        scope := ((checker.renamed rename).scope.addGlobal
          (.ofFunction (function.renamed rename))).enter (function.renamed rename) } =
      Checker.renamed rename
        { checker with scope := (checker.scope.addGlobal (.ofFunction function)).enter function } := by
    simp [Function.renamed, Checker.renamed, Scope.renamed, Scope.addGlobal, Scope.enter,
      Symbol.ofFunction, Symbol.ownVariable, Symbol.renamed, Owner.renamed, Variable.renamed,
      Function.comp_def]
  rw [entered, entered, opened]
  simp only [Function.renamed, foldl_renamed (declareLocal_renamed injective discarded _),
    foldl_renamed (declareLocalType_renamed rename)]

/-- Checking a renamed function is checking it and renaming. -/
theorem checkFunction_renamed (checker : Checker) (function : Function) :
    (checker.renamed rename).checkFunction (function.renamed rename) =
      ((checker.checkFunction function).1.renamed rename,
        (checker.checkFunction function).2.renamed rename) := by
  have same : (function.renamed rename).body = function.body.map (Node.renamed rename) := rfl
  rw [checkFunction_eq, checkFunction_eq, entered_renamed injective discarded, same,
    checkBody_renamed injective, hasReturn_renamed]
  cases hasReturn function.body with
  | true => rfl
  | false =>
    simp [note, Function.renamed, Checker.renamed, Scope.leave, Scope.renamed, raised_renamed,
      Remark.renamed]

/-- Checking renamed functions is checking them and renaming. -/
theorem checkFunctions_renamed (checker : Checker) (functions : List Function) :
    (checker.renamed rename).checkFunctions (functions.map (Function.renamed rename)) =
      ((checker.checkFunctions functions).1.map (Function.renamed rename),
        (checker.checkFunctions functions).2.renamed rename) := by
  induction functions generalizing checker with
  | nil => rfl
  | cons function functions inductionHypothesis =>
    simp only [List.map_cons, checkFunctions_cons, checkFunction_renamed injective discarded,
      inductionHypothesis]

variable (read : rename "read" = "read") (output : rename "output" = "output")

include read output

/-- Declaring what a renamed program declares is declaring it and renaming. -/
theorem declared_renamed (checker : Checker) (program : Program) :
    declared checker (program.renamed rename) = (declared checker program).renamed rename := by
  have unwanted : rename "d" = "d" := discarded
  have fresh : checker.reset.renamed rename = checker.reset := by
    simp [Checker.reset, Checker.renamed, Scope.renamed, Symbol.predefined, Symbol.renamed, TypeRef.renamed,
      unwanted, read, output]
  have types := foldl_renamed (declareType_renamed rename) program.types checker.reset
  have vars := foldl_renamed (declareGlobal_renamed injective discarded) program.vars
  rw [fresh] at types
  simp only [declared, Program.renamed, types, vars]

/-- Checking a renamed program is checking it and renaming. -/
theorem run_renamed (checker : Checker) (program : Program) :
    checker.check (program.renamed rename) =
      ((checker.check program).1.renamed rename, (checker.check program).2.renamed rename) := by
  have declarations := declared_renamed injective discarded read output checker program
  rw [check_eq, check_eq, declarations]
  simp only [Program.renamed, checkFunctions_renamed injective discarded,
    checkBody_renamed injective]

end Programs

/-! ## Tags -/

/-- The tags in a body, in the order of a walk. -/
def tagsIn (body : List Node) : List Ty := (Node.walkAll (fun _ => true) body).map Node.tag

/-- Renaming keeps the types. -/
theorem tagsIn_renamed (rename : String → String) (body : List Node) :
    tagsIn (body.map (Node.renamed rename)) = tagsIn body := by
  have tag (node : Node) : (node.renamed rename).tag = node.tag := by
    cases node <;> rfl
  simp only [tagsIn, Node.walkAll_eq_flatMap, List.flatMap_map, List.map_flatMap, List.map_map,
    Node.walk_map Node.isPresent_renamed Node.children_renamed, Function.comp_def, tag]

/-- Checking depends on names through their equality only: for a program with other names, different
ones for different ones and the predefined ones for themselves, it gives the same tree with the same
tags, and the same complaints, notices and symbols, under the other names. -/
theorem check_renamed {rename : String → String} (injective : Function.Injective rename)
    (discarded : rename "d" = "d") (read : rename "read" = "read")
    (output : rename "output" = "output") (checker : Checker) (program : Program) :
    let before := checker.check program
    let behind := checker.check (program.renamed rename)
    behind.2.diagnostics = before.2.diagnostics.map (Diagnostic.renamed rename) ∧
      behind.2.notices = before.2.notices.map (Notice.renamed rename) ∧
      behind.2.symbols = before.2.symbols.map (Symbol.renamed rename) ∧
      behind.1 = before.1.renamed rename ∧
      behind.1.functions.map (fun function => tagsIn function.body) =
        before.1.functions.map (fun function => tagsIn function.body) ∧
      tagsIn behind.1.body = tagsIn before.1.body := by
  intro before behind
  have run : behind = (before.1.renamed rename, before.2.renamed rename) :=
    run_renamed injective discarded read output checker program
  rw [run]
  refine ⟨rfl, rfl, List.map_reverse.symm, rfl, ?_, tagsIn_renamed rename before.1.body⟩
  simp only [Program.renamed, Function.renamed, List.map_map, Function.comp_def, tagsIn_renamed]

/-- A program in which one name is a member of a type, a variable, a parameter and no function. -/
def collisions : Program where
  name := "p"
  endName := "p"
  types := [⟨"t", ["a", "b"], {}, .everywhere⟩]
  vars := [⟨"a", .named "t", {}, .everywhere⟩]
  functions := [
    { name := "f", result := .plain .integer, params := [⟨"a", .plain .char, {}, .withinFunction⟩]
      locals := [⟨"f", .plain .boolean, {}, .withinFunction⟩]
      body := [.assign {} (.name {} .unknown "a") (.name {} .unknown "c")], tok := {} }]
  body := [.call {} .unknown "a" [.name {} .unknown "b"],
    .assign {} (.name {} .unknown "d") (.call {} .unknown "f" [.name {} .unknown "b"])]
  tok := {}

/-- Two names exchanged, one of them declared nowhere. -/
theorem check_renamed_collisions :
    let rename := Equiv.swap "a" "c"
    Function.Injective rename ∧ rename "d" = "d" ∧ rename "read" = "read" ∧
      rename "output" = "output" ∧
      (Checker.check {} (collisions.renamed rename)).2.diagnostics.map Diagnostic.complaint =
        [.redeclaredGlobal "c", .redeclaredLocal "f", .undeclaredVariable "a",
          .undeclaredFunction "c", .argumentType .char .integer "f"] := by
  intro rename
  have discarded : rename "d" = "d" := by decide
  have read : rename "read" = "read" := by decide
  have output : rename "output" = "output" := by decide
  refine ⟨rename.injective, discarded, read, output, ?_⟩
  obtain ⟨complaints, -⟩ := check_renamed rename.injective discarded read output {} collisions
  rw [complaints]
  decide

end WinZig.Typing
