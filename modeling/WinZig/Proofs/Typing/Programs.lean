import WinZig.Proofs.Inspection
import WinZig.Proofs.Typing.Declarations
import WinZig.Proofs.Typing.Tags

/-!
# Checking decides whether a program is well typed
-/

namespace WinZig.Typing

open Checker

/-! ## Scopes -/

/-- The symbols of a program before its functions, most recent first. -/
def globalSymbols (program : Program) : List Symbol :=
  ((declaredVars program).map (Symbol.ofVariable .var)).reverse ++
    ((program.types.flatMap Symbol.membersOf).reverse ++ Symbol.predefined.reverse)

/-- The scope behind some functions of a program. -/
def scopeBehind (program : Program) (before : List Function) : Scope :=
  { globals := (before.map Symbol.ofFunction).reverse ++ globalSymbols program }

/-- The symbols of a function, most recent first. -/
def localSymbols (function : Function) : List Symbol :=
  (function.locals.map (Symbol.ofVariable .var)).reverse ++
    ((function.types.flatMap Symbol.membersOf).reverse ++
      ((function.params.map (Symbol.ofVariable .parameter)).reverse ++
        [Symbol.ownVariable function]))

/-- The scope of the body of a function. -/
def scopeWithin (scope : Scope) (function : Function) : Scope where
  globals := .ofFunction function :: scope.globals
  locals := localSymbols function
  owner := some ⟨function.name, function.result.resolved⟩

/-! ## Scopes as contexts -/

section Symbols

variable (types : List TypeDef) (vars : List Variable) (functions : List Function)

/-- Variables of two lists are those of each. -/
theorem variablesOf_append (before behind : List Symbol) :
    variablesOf (before ++ behind) = variablesOf before ++ variablesOf behind := by
  simp [variablesOf]

/-- Callables of two lists are those of each. -/
theorem callablesOf_append (before behind : List Symbol) :
    callablesOf (before ++ behind) = callablesOf before ++ callablesOf behind := by
  simp [callablesOf]

/-- Symbols that cannot be called give no callables. -/
theorem callablesOf_eq_nil {symbols : List Symbol}
    (plain : ∀ sym ∈ symbols, sym.role.isCallable = false) : callablesOf symbols = [] := by
  simpa [callablesOf] using plain

/-- Symbols that cannot be called all declare variables. -/
theorem variablesOf_eq_map {symbols : List Symbol}
    (plain : ∀ sym ∈ symbols, sym.role.isCallable = false) :
    variablesOf symbols = symbols.map fun sym => (sym.name, sym.type) := by
  rw [variablesOf, List.filter_eq_self.mpr]
  simpa using plain

/-- Members of types cannot be called. -/
theorem membersOf_plain : ∀ sym ∈ types.flatMap Symbol.membersOf, sym.role.isCallable = false := by
  intro sym member
  obtain ⟨definition, -, named⟩ := List.mem_flatMap.mp member
  obtain ⟨name, -, rfl⟩ := List.mem_map.mp named
  rfl

/-- Symbols of variables cannot be called. -/
theorem ofVariable_plain {role : Role} (plain : role.isCallable = false) :
    ∀ sym ∈ vars.map (Symbol.ofVariable role), sym.role.isCallable = false := by
  simp [Symbol.ofVariable, plain]

/-- Variables among the members of types are all members. -/
theorem variablesOf_membersOf : variablesOf (types.flatMap Symbol.membersOf) = members types := by
  rw [variablesOf_eq_map (membersOf_plain types)]
  simp [members, memberNames, Symbol.membersOf, List.map_flatMap, Function.comp_def]

/-- Variables among the symbols of variables are all of them. -/
theorem variablesOf_ofVariable {role : Role} (plain : role.isCallable = false) :
    variablesOf (vars.map (Symbol.ofVariable role)) = bindings vars := by
  rw [variablesOf_eq_map (ofVariable_plain vars plain), List.map_map]
  rfl

/-- There are no variables among functions. -/
theorem variablesOf_ofFunction : variablesOf (functions.map Symbol.ofFunction) = [] := by
  simp [variablesOf, Symbol.ofFunction, Role.isCallable]

/-- Callables among functions are their signatures. -/
theorem callablesOf_ofFunction :
    callablesOf (functions.map Symbol.ofFunction) = functions.map signature := by
  rw [callablesOf, List.filter_eq_self.mpr, List.map_map]
  · rfl
  · simp [Symbol.ofFunction, Role.isCallable]

end Symbols

section Contexts

variable (program : Program) (function : Function)

/-- Globals in the order of their declarations: predefined ones, members of types, variables. -/
theorem globalSymbols_reverse :
    (globalSymbols program).reverse = Symbol.predefined ++
      (program.types.flatMap Symbol.membersOf ++
        (declaredVars program).map (Symbol.ofVariable .var)) := by
  simp only [globalSymbols, List.reverse_append, List.reverse_reverse, List.append_assoc]

/-- Locals in the order of their declarations: the function itself, parameters, members of types,
variables. -/
theorem localSymbols_reverse :
    (localSymbols function).reverse = [Symbol.ownVariable function] ++
      (function.params.map (Symbol.ofVariable .parameter) ++
        (function.types.flatMap Symbol.membersOf ++
          function.locals.map (Symbol.ofVariable .var))) := by
  simp only [localSymbols, List.reverse_append, List.reverse_reverse, List.append_assoc,
    List.reverse_singleton]

/-- The global variables are those of the context. -/
theorem variablesOf_globalSymbols : variablesOf (globalSymbols program).reverse = globals program := by
  rw [globalSymbols_reverse, variablesOf_append, variablesOf_append, variablesOf_membersOf,
    variablesOf_ofVariable _ rfl]
  rfl

/-- Before any function the callables are the procedures. -/
theorem callablesOf_globalSymbols : callablesOf (globalSymbols program).reverse = procedures := by
  rw [globalSymbols_reverse, callablesOf_append, callablesOf_append,
    callablesOf_eq_nil (membersOf_plain _), callablesOf_eq_nil (ofVariable_plain _ rfl)]
  rfl

/-- The local variables are those of the context. -/
theorem variablesOf_localSymbols :
    variablesOf (localSymbols function).reverse = (function.name, function.result.resolved) ::
      (bindings function.params ++ (members function.types ++ bindings function.locals)) := by
  rw [localSymbols_reverse, variablesOf_append, variablesOf_append, variablesOf_append,
    variablesOf_membersOf, variablesOf_ofVariable _ rfl, variablesOf_ofVariable _ rfl]
  rfl

/-- There are no local callables. -/
theorem callablesOf_localSymbols : callablesOf (localSymbols function).reverse = [] := by
  rw [localSymbols_reverse, callablesOf_append, callablesOf_append, callablesOf_append,
    callablesOf_eq_nil (membersOf_plain _), callablesOf_eq_nil (ofVariable_plain _ rfl),
    callablesOf_eq_nil (ofVariable_plain _ rfl)]
  rfl

/-- Behind all functions, the scope declares what the body of the program sees. -/
theorem contextOf_scopeBehind :
    contextOf (scopeBehind program program.functions) = programContext program := by
  simp only [contextOf, scopeBehind, List.nil_append, List.reverse_append, List.reverse_reverse,
    variablesOf_append, callablesOf_append, variablesOf_globalSymbols, callablesOf_globalSymbols,
    variablesOf_ofFunction, callablesOf_ofFunction, List.append_nil, programContext]
  rfl

/-- Within a function, the scope declares what the body of the function sees. -/
theorem contextOf_scopeWithin (before : List Function) :
    contextOf (scopeWithin (scopeBehind program before) function) =
      functionContext program before function := by
  have globals : (scopeWithin (scopeBehind program before) function).globals.reverse =
      (globalSymbols program).reverse ++ (before ++ [function]).map Symbol.ofFunction := by
    simp [scopeWithin, scopeBehind]
  have locals : (scopeWithin (scopeBehind program before) function).locals.reverse =
      (localSymbols function).reverse := rfl
  simp only [contextOf, List.reverse_append, globals, locals, variablesOf_append,
    callablesOf_append, variablesOf_globalSymbols, callablesOf_globalSymbols,
    variablesOf_ofFunction, callablesOf_ofFunction, variablesOf_localSymbols,
    callablesOf_localSymbols, List.append_nil, functionContext]
  rfl

end Contexts

/-! ## Nothing declared is without a type -/

section Known

variable {lexicon : Shape.Lexicon} {program : Program}

/-- A reference to a known type has one. -/
theorem resolved_known {known : List String} {type : TypeRef} (shape : Shape.IsTypeRef known type) :
    type.resolved ≠ .unknown := by
  cases shape with
  | predefined found =>
    simp only [Grammar.primitives, List.mem_cons, Prod.mk.injEq, List.not_mem_nil, or_false] at found
    rcases found with ⟨-, rfl⟩ | ⟨-, rfl⟩ | ⟨-, rfl⟩ <;> decide
  | declared other listed => simp [TypeRef.resolved]

/-- Members of types have types. -/
theorem membersOf_known (types : List TypeDef) :
    ∀ sym ∈ types.flatMap Symbol.membersOf, sym.type ≠ .unknown := by
  intro sym member
  obtain ⟨definition, -, named⟩ := List.mem_flatMap.mp member
  obtain ⟨name, -, rfl⟩ := List.mem_map.mp named
  exact nofun

/-- Declared variables have types. -/
theorem ofVariable_known {known : List String} {visibility : Visibility} {role : Role}
    {vars : List Variable}
    (shape : ∀ declared ∈ vars, Shape.IsVariable lexicon known visibility declared) :
    ∀ sym ∈ vars.map (Symbol.ofVariable role), sym.type ≠ .unknown := by
  intro sym member
  obtain ⟨declared, listed, rfl⟩ := List.mem_map.mp member
  exact resolved_known (shape declared listed).type

/-- Globals have types. -/
theorem globalSymbols_known (shape : Shape.IsProgram lexicon program) :
    ∀ sym ∈ globalSymbols program, sym.type ≠ .unknown := by
  have vars : ∀ declared ∈ declaredVars program,
      Shape.IsVariable lexicon (program.types.map TypeDef.name) .everywhere declared :=
    fun declared member => shape.vars declared (List.mem_filter.mp member).1
  have ordered : ∀ sym ∈ (globalSymbols program).reverse, sym.type ≠ .unknown := by
    rw [globalSymbols_reverse]
    simp only [List.forall_mem_append]
    exact ⟨by decide, membersOf_known _, ofVariable_known vars⟩
  exact fun sym member => ordered sym (List.mem_reverse.mpr member)

/-- Behind some functions of a program all types are known. -/
theorem known_scopeBehind {before : List Function} (shape : Shape.IsProgram lexicon program)
    (functions : ∀ function ∈ before, function ∈ program.functions) :
    Known (scopeBehind program before) := by
  unfold Known scopeBehind
  simp only [List.nil_append, List.forall_mem_append, List.mem_reverse]
  refine ⟨fun sym member => ?_, globalSymbols_known shape⟩
  obtain ⟨function, listed, rfl⟩ := List.mem_map.mp member
  exact resolved_known (shape.functions function (functions function listed)).result

/-- Within a function of a program all types are known. -/
theorem known_scopeWithin {before : List Function} {function : Function}
    (shape : Shape.IsProgram lexicon program)
    (functions : ∀ other ∈ before ++ [function], other ∈ program.functions) :
    Known (scopeWithin (scopeBehind program before) function) := by
  have within := shape.functions function (functions function (by simp))
  have globals : Known (scopeBehind program before) :=
    known_scopeBehind shape fun other member => functions other (List.mem_append_left _ member)
  have ordered : ∀ sym ∈ (localSymbols function).reverse, sym.type ≠ .unknown := by
    rw [localSymbols_reverse]
    simp only [List.forall_mem_append, List.forall_mem_singleton]
    exact ⟨resolved_known within.result, ofVariable_known within.params, membersOf_known _,
      ofVariable_known within.locals⟩
  unfold Known scopeWithin
  simp only [List.forall_mem_append, List.forall_mem_cons]
  exact ⟨fun sym member => ordered sym (List.mem_reverse.mpr member), resolved_known within.result,
    globals⟩

/-- Nothing that is seen in a function of a program is without a type. -/
theorem known_within {earlier later : List Function} {function : Function}
    (shape : Shape.IsProgram lexicon program)
    (cut : program.functions = earlier ++ function :: later) :
    Known (scopeWithin (scopeBehind program earlier) function) := by
  apply known_scopeWithin shape
  intro other member
  rw [cut, List.append_cons]
  exact List.mem_append_left later member

end Known

/-! ## Functions -/

section Functions

variable (checker : Checker) (function : Function)

/-- The state in which the body of a function is checked. -/
def entered : Checker :=
  function.locals.foldl (declareLocal .var)
    (function.types.foldl declareLocalType
      (function.params.foldl (declareLocal .parameter)
        { checker with scope := (checker.scope.addGlobal (.ofFunction function)).enter function }))

/-- Entering a function declares its locals. -/
theorem entered_scope : (entered checker function).scope = scopeWithin checker.scope function := by
  rw [entered, foldl_declareLocal_scope, foldl_declareLocalType, foldl_declareLocal_scope]
  rfl

/-- Variables are bound under their names. -/
theorem bindings_names (vars : List Variable) :
    (bindings vars).map Prod.fst = vars.map Variable.name := by
  simp [bindings]

/-- Members are bound under their names. -/
theorem members_names (types : List TypeDef) : (members types).map Prod.fst = memberNames types := by
  simp [members, Function.comp_def]

/-- Entering a function is silent exactly if its parameters and its variables are fresh. -/
theorem entered_eq_nil :
    (entered checker function).diagnostics = [] ↔
      checker.diagnostics = [] ∧ Fresh [function.name] function.params ∧
        Fresh (function.name :: (function.params.map Variable.name ++ memberNames function.types))
          function.locals := by
  -- The variables are declared last, so the names before them are those of the other symbols.
  have taken : ∀ name, name ∈ variableNames ((function.types.flatMap Symbol.membersOf).reverse ++
      ((function.params.map (Symbol.ofVariable .parameter)).reverse ++
        [Symbol.ownVariable function])) ↔
      name ∈ function.name :: (function.params.map Variable.name ++ memberNames function.types) := by
    intro name
    rw [← mem_variableNames_reverse]
    simp only [List.reverse_append, List.reverse_reverse, List.reverse_singleton, List.append_assoc,
      variableNames, variablesOf_append, variablesOf_membersOf]
    rw [variablesOf_ofVariable _ rfl, List.map_append, List.map_append, bindings_names,
      members_names]
    rfl
  rw [entered, foldl_declareLocal_eq_nil rfl, foldl_declareLocalType, foldl_declareLocal_eq_nil rfl,
    foldl_declareLocal_scope, and_assoc]
  exact and_congr_right fun _ => and_congr_right fun _ => fresh_congr fun declared _ => taken _

/-- A function is entered, its body is checked, and it is left again. -/
theorem checkFunction_eq :
    checker.checkFunction function =
      let checked := (entered checker function).checkBody function.body
      let noted := if hasReturn function.body then checked.2
        else checked.2.note function.tok (.noReturn function.name)
      ({ function with body := checked.1 }, { noted with scope := noted.scope.leave }) := rfl

/-- Where a change of nodes is a change of their children, it does not matter to whether a return
statement stands anywhere in a body. -/
theorem hasReturn_map {change : Node → Node}
    (present : ∀ node, (change node).isPresent = node.isPresent)
    (parts : ∀ node, (change node).children = node.children.map change)
    (returns : ∀ node, (change node).isReturn = node.isReturn) (body : List Node) :
    hasReturn (body.map change) = hasReturn body := by
  simp only [hasReturn_eq_meetsReturn, meetsReturn, Node.walkAll_eq_flatMap, List.flatMap_map,
    List.any_flatMap, Node.walk_map present parts, List.any_map, Function.comp_def, returns]

/-- Relabelling keeps whether there is a return. -/
theorem hasReturn_relabel {onToken : Token → Token} {onTag : Ty → Ty} (body : List Node) :
    hasReturn (body.map (Node.relabel onToken onTag)) = hasReturn body :=
  hasReturn_map Node.isPresent_relabel Node.children_relabel Node.isReturn_relabel body

/-- A function with the tags of its body written, in a given scope. -/
def tagged (scope : Scope) (function : Function) : Function :=
  { function with body := nodesOf (visitAll (scopeWithin scope function) function.body) }

/-- A checked function is the function with its types. -/
theorem checkFunction_fst :
    (checker.checkFunction function).1 = tagged checker.scope function := by
  rw [tagged, ← entered_scope]
  rfl

/-- Behind a checked function the scope holds it and the globals, and no locals. -/
theorem checkFunction_scope :
    (checker.checkFunction function).2.scope =
      { globals := .ofFunction function :: checker.scope.globals } := by
  have globals : (entered checker function).scope.leave =
      { globals := .ofFunction function :: checker.scope.globals } := by
    rw [entered_scope]
    rfl
  rw [← globals, checkFunction_eq]
  dsimp only
  split <;> rfl

/-- Complaints about a function are those about its declarations and then those about its body. -/
theorem checkFunction_diagnostics :
    (checker.checkFunction function).2.diagnostics =
      (entered checker function).diagnostics ++
        diagnosticsOf (visitAll (scopeWithin checker.scope function) function.body) := by
  rw [← entered_scope, checkFunction_eq]
  dsimp only
  split <;> rfl

/-- Silence about some statements is their validity. -/
theorem diagnosticsOf_eq_nil_iff_valid {lexicon : Shape.Lexicon} {scope : Scope} {body : List Node}
    (known : Known scope) (shape : ∀ stmt ∈ body, Shape.IsStatement lexicon stmt) :
    diagnosticsOf (visitAll scope body) = [] ↔ ∀ stmt ∈ body, IsValid (contextOf scope) stmt := by
  rw [diagnosticsOf_eq_nil]
  exact forall_congr' fun stmt => forall_congr' fun member =>
    ⟨isValid_of_visit known (shape stmt member), visit_of_isValid known⟩

variable {checker function} {lexicon : Shape.Lexicon} {program : Program} {before : List Function}

/-- One step: checking a function that stands behind others is silent exactly if nothing is wrong
with the function. -/
theorem checkFunction_eq_nil (shape : Shape.IsProgram lexicon program)
    (listed : ∀ other ∈ before ++ [function], other ∈ program.functions)
    (place : checker.scope = scopeBehind program before) :
    (checker.checkFunction function).2.diagnostics = [] ↔
      checker.diagnostics = [] ∧ FunctionIsValid program before function := by
  have body := (shape.functions function (listed function (by simp))).body
  rw [checkFunction_diagnostics, List.append_eq_nil_iff, entered_eq_nil, place,
    diagnosticsOf_eq_nil_iff_valid (known_scopeWithin shape listed) body, contextOf_scopeWithin]
  constructor
  · rintro ⟨⟨silent, params, locals⟩, body⟩
    exact ⟨silent, params, locals, body⟩
  · rintro ⟨silent, params, locals, body⟩
    exact ⟨⟨silent, params, locals⟩, body⟩

/-- A checked function moves the scope behind it. -/
theorem checkFunction_place (place : checker.scope = scopeBehind program before) :
    (checker.checkFunction function).2.scope = scopeBehind program (before ++ [function]) := by
  rw [checkFunction_scope, place]
  simp [scopeBehind]

/-! The whole run over the functions, by induction on those that are left. -/

/-- Checked functions move the scope behind them. -/
theorem checkFunctions_place (functions : List Function)
    (place : checker.scope = scopeBehind program before) :
    (checker.checkFunctions functions).2.scope = scopeBehind program (before ++ functions) := by
  induction functions generalizing checker before with
  | nil => rw [checkFunctions_nil, place, List.append_nil]
  | cons function functions ih =>
    rw [List.append_cons]
    exact ih (checkFunction_place place)

/-- Functions add no complaint exactly when all of them are valid where they stand. -/
theorem checkFunctions_eq_nil (shape : Shape.IsProgram lexicon program) {functions : List Function}
    (listed : ∀ other ∈ before ++ functions, other ∈ program.functions)
    (place : checker.scope = scopeBehind program before) :
    (checker.checkFunctions functions).2.diagnostics = [] ↔
      checker.diagnostics = [] ∧ ∀ earlier function later, functions = earlier ++ function :: later →
        FunctionIsValid program (before ++ earlier) function := by
  induction functions generalizing checker before with
  | nil => simp [checkFunctions_nil]
  | cons function functions ih =>
    have first : ∀ other ∈ before ++ [function], other ∈ program.functions :=
      fun other member => listed other (by simp at member ⊢; grind)
    rw [forall_cut_cons, List.append_nil, ← and_assoc, ← checkFunction_eq_nil shape first place]
    have others := ih (by simpa using listed) (checkFunction_place place)
    simp only [List.append_assoc, List.singleton_append] at others
    exact others

/-- Each function is tagged in the scope behind the functions before it. -/
theorem checkFunctions_tagged {functions : List Function}
    (place : checker.scope = scopeBehind program before) :
    ∀ earlier function later, functions = earlier ++ function :: later →
      (checker.checkFunctions functions).1[earlier.length]? =
        some (tagged (scopeBehind program (before ++ earlier)) function) := by
  induction functions generalizing checker before with
  | nil => simp
  | cons function functions ih =>
    rw [forall_cut_cons]
    constructor
    · rw [List.append_nil, ← place, ← checkFunction_fst]
      rfl
    · intro earlier other later cut
      rw [List.append_cons]
      exact ih (checkFunction_place place) earlier other later cut

/-- Checking functions changes types only. -/
theorem checkFunctions_untagged (checker : Checker) (functions : List Function) :
    (checker.checkFunctions functions).1.map Function.untagged =
      functions.map Function.untagged := by
  induction functions generalizing checker with
  | nil => rfl
  | cons function functions ih =>
    have first : (tagged checker.scope function).untagged = function.untagged := by
      simp only [tagged, Function.untagged, visitAll_untagged]
    simp only [checkFunctions_cons, List.map_cons, checkFunction_fst, first, ih]

end Functions

/-! ## Programs -/

section Programs

variable {lexicon : Shape.Lexicon} {program : Program} (checker : Checker)

/-- The state in which the functions of a program are checked. -/
def declared (checker : Checker) (program : Program) : Checker :=
  program.vars.foldl declareGlobal (program.types.foldl declareType checker.reset)

/-- What the functions of a program see are its declarations, whatever was checked before. -/
theorem declared_scope (program : Program) :
    (declared checker program).scope = scopeBehind program [] := by
  rw [declared, foldl_declareGlobal_scope, foldl_declareType]
  rfl

/-- The declarations of a program are silent exactly if they are fresh. -/
theorem declared_eq_nil :
    (declared checker program).diagnostics = [] ↔
      Fresh (memberNames program.types) (declaredVars program) := by
  have silent : (program.types.foldl declareType checker.reset).diagnostics = [] := by
    rw [foldl_declareType]
    rfl
  rw [declared, foldl_declareGlobal_eq_nil, and_iff_right silent]
  refine fresh_congr fun declared member => ?_
  have other : declared.name ≠ "d" := of_decide_eq_true (List.mem_filter.mp member).2
  have predefined : (variablesOf checker.reset.scope.globals.reverse).map Prod.fst = ["d"] := by
    simp only [Checker.reset]
    decide
  rw [foldl_declareType, ← mem_variableNames_reverse]
  simp only [List.reverse_append, List.reverse_reverse, variableNames, variablesOf_append,
    variablesOf_membersOf, List.map_append, members_names, List.mem_append, predefined,
    List.mem_singleton, other, false_or]

/-- A program declares, its functions are checked in order, and then its body. -/
theorem check_eq :
    checker.check program =
      let checked := (declared checker program).checkFunctions program.functions
      let last := checked.2.checkBody program.body
      ({ program with functions := checked.1, body := last.1 }, last.2) := rfl

/-- The functions of a checked program are checked behind its declarations. -/
theorem check_functions :
    (checker.check program).1.functions =
      ((declared checker program).checkFunctions program.functions).1 := rfl

/-- The body of a checked program is visited behind its functions. -/
theorem check_body :
    (checker.check program).1.body =
      nodesOf (visitAll (scopeBehind program program.functions) program.body) := by
  have place := checkFunctions_place program.functions (declared_scope checker program)
  rw [List.nil_append] at place
  rw [← place]
  rfl

/-- Complaints about a program are those about its functions and then those about its body. -/
theorem check_diagnostics :
    (checker.check program).2.diagnostics =
      ((declared checker program).checkFunctions program.functions).2.diagnostics ++
        diagnosticsOf (visitAll (scopeBehind program program.functions) program.body) := by
  have place := checkFunctions_place program.functions (declared_scope checker program)
  rw [List.nil_append] at place
  rw [← place]
  rfl

/-- Checking writes tags and changes nothing else. -/
theorem check_keeps : (checker.check program).1.untagged = program.untagged := by
  have functions := checkFunctions_untagged (declared checker program) program.functions
  simp only [Program.untagged, check_functions, functions, check_body, visitAll_untagged]
  rfl

variable (shape : Shape.IsProgram lexicon program)

include shape

/-- Checking is silent exactly if nothing is wrong with the program. -/
theorem check_eq_nil :
    (checker.check program).2.diagnostics = [] ↔ ProgramIsValid program := by
  have functions := checkFunctions_eq_nil shape (fun _ member => member) (declared_scope checker program)
  have known : Known (scopeBehind program program.functions) :=
    known_scopeBehind shape fun _ member => member
  rw [check_diagnostics, List.append_eq_nil_iff, functions, declared_eq_nil,
    diagnosticsOf_eq_nil_iff_valid known shape.body, contextOf_scopeBehind]
  constructor
  · rintro ⟨⟨vars, functions⟩, body⟩
    exact ⟨vars, functions, body⟩
  · rintro ⟨vars, functions, body⟩
    exact ⟨⟨vars, functions⟩, body⟩

/-- A program that was read carries no tags. -/
theorem program_untagged : program.untagged = program := by
  have functions : program.functions.map Function.untagged = program.functions := by
    refine (List.map_congr_left fun function member => ?_).trans (List.map_id' program.functions)
    rw [Function.untagged, body_untagged (shape.functions function member).body]
  simp only [Program.untagged, functions, body_untagged shape.body]

/-- Without its tags, a checked program is the program again. -/
theorem check_untagged : (checker.check program).1.untagged = program :=
  (check_keeps checker).trans (program_untagged shape)

/-- The types in the functions of a valid program are exact. -/
theorem check_functions_tagsExact (valid : ProgramIsValid program) :
    ∀ before function behind, program.functions = before ++ function :: behind →
      ∃ checked, (checker.check program).1.functions[before.length]? = some checked ∧
        TagsExact (functionContext program before function) checked.body := by
  intro before function behind cut
  refine ⟨_, checkFunctions_tagged (declared_scope checker program) before function behind cut, ?_⟩
  rw [← contextOf_scopeWithin]
  refine tagsExact_of_isValid (known_within shape cut) fun stmt member => ?_
  rw [contextOf_scopeWithin]
  exact (valid.functions before function behind cut).body stmt member

/-- The types in the body of a valid program are exact. -/
theorem check_body_tagsExact (valid : ProgramIsValid program) :
    TagsExact (programContext program) (checker.check program).1.body := by
  have known : Known (scopeBehind program program.functions) :=
    known_scopeBehind shape fun _ member => member
  rw [check_body, ← contextOf_scopeBehind]
  refine tagsExact_of_isValid known fun stmt member => ?_
  rw [contextOf_scopeBehind]
  exact valid.body stmt member

end Programs

end WinZig.Typing
