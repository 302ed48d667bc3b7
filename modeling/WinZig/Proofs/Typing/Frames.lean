import WinZig.Proofs.Typing.Programs

/-!
# What a function contributes

A checker collects. What it has collected decides nothing, so checking a function adds the same
complaints whatever was complained about before, and they stand together. What a function leaves
behind for those after it is its name with its parameters and its result. Everything else of it can be
exchanged: the complaints of that function are exchanged with it, and nothing else changes.
-/

namespace WinZig.Typing

open Checker

/-! ## Warnings -/

section Warnings

/-- Some steps that leave the warnings of a checker as they are, one after another. -/
theorem foldl_shown {α : Type} {step : Checker → α → Checker}
    (each : ∀ checker value, (step checker value).shown = checker.shown) (values : List α)
    (checker : Checker) : (values.foldl step checker).shown = checker.shown :=
  List.foldlRecOn values step (motive := fun reached => reached.shown = checker.shown) rfl
    fun reached same value _ => (each reached value).trans same

variable (checker : Checker)

/-- A variable of the program leaves the warnings as they are. -/
theorem declareGlobal_shown (declared : Variable) :
    (declareGlobal checker declared).shown = checker.shown := by
  unfold declareGlobal
  split
  · rfl
  · dsimp only
    split <;> rfl

/-- A variable of a function leaves the warnings as they are, also if one of them is raised. -/
theorem declareLocal_shown (role : Role) (declared : Variable) :
    (declareLocal role checker declared).shown = checker.shown := by
  unfold declareLocal
  dsimp only
  split
  · rfl
  · split <;> rfl

/-- Entering a function leaves the warnings as they are. -/
theorem entered_shown (function : Function) : (entered checker function).shown = checker.shown := by
  have types : ∀ checker definition, (declareLocalType checker definition).shown = checker.shown :=
    fun _ _ => rfl
  rw [entered, foldl_shown fun checker => declareLocal_shown checker .var, foldl_shown types,
    foldl_shown fun checker => declareLocal_shown checker .parameter]

/-- A function leaves the warnings as they are. -/
theorem checkFunction_shown (function : Function) :
    (checker.checkFunction function).2.shown = checker.shown := by
  rw [checkFunction_eq, ← entered_shown checker function]
  dsimp only
  split <;> rfl

/-- The whole run over the functions leaves the warnings as they are. -/
theorem checkFunctions_shown (functions : List Function) :
    (checker.checkFunctions functions).2.shown = checker.shown := by
  induction functions generalizing checker with
  | nil => rfl
  | cons function functions inductionHypothesis =>
    exact (inductionHypothesis _).trans (checkFunction_shown checker function)

/-- The declarations of a program leave the warnings as they are. -/
theorem declared_shown (program : Program) : (declared checker program).shown = checker.shown := by
  have types : ∀ checker definition, (declareType checker definition).shown = checker.shown :=
    fun _ _ => rfl
  rw [declared, foldl_shown declareGlobal_shown, foldl_shown types, Checker.reset]

/-- Checking a program leaves the warnings as they are. -/
theorem check_shown (program : Program) : (checker.check program).2.shown = checker.shown :=
  (checkFunctions_shown _ program.functions).trans (declared_shown checker program)

end Warnings

/-! ## Collecting -/

section Collecting

/-- A checker for which only some warnings are on, of those that were, and which has collected before
what another one collected. -/
def resumed (before : Checker) (only : Warning → Bool) (checker : Checker) : Checker :=
  { checker with
    diagnostics := before.diagnostics ++ checker.diagnostics
    shown := fun warning => checker.shown warning && only warning
    notices := before.notices ++ checker.notices.filter fun notice => only notice.remark.warning }

variable (before : Checker) (only : Warning → Bool) (checker : Checker)

/-- What was collected before, and which warnings are on, decides nothing about a variable of the
program. -/
theorem declareGlobal_resumed (declared : Variable) :
    declareGlobal (resumed before only checker) declared =
      resumed before only (declareGlobal checker declared) := by
  have scope : (resumed before only checker).scope = checker.scope := rfl
  simp only [declareGlobal, scope]
  split
  · rfl
  · split <;> simp [complain, resumed]

/-- Nor does it decide anything about a parameter or a variable of a function. -/
theorem declareLocal_resumed (role : Role) (declared : Variable) :
    declareLocal role (resumed before only checker) declared =
      resumed before only (declareLocal role checker declared) := by
  have scope : (resumed before only checker).scope = checker.scope := rfl
  simp only [declareLocal, scope]
  by_cases taken : checker.scope.locals.any (Scope.isNamed false declared.name)
  · simp [taken, complain, resumed]
  · by_cases hides : declared.name ≠ discard ∧ isGlobalVariable checker.scope declared.name
    · simp [taken, hides, note, resumed, Notice.raised_and]
    · simp [taken, hides, resumed]

/-- A function is entered alike. -/
theorem entered_resumed (function : Function) :
    entered (resumed before only checker) function =
      resumed before only (entered checker function) := by
  have locals (role : Role) (vars : List Variable) (checker : Checker) :
      vars.foldl (declareLocal role) (resumed before only checker) =
        resumed before only (vars.foldl (declareLocal role) checker) :=
    List.foldl_hom (resumed before only) fun checker declared =>
      declareLocal_resumed before only checker role declared
  have types (types : List TypeDef) (checker : Checker) :
      types.foldl declareLocalType (resumed before only checker) =
        resumed before only (types.foldl declareLocalType checker) :=
    List.foldl_hom (resumed before only) fun _ _ => rfl
  rw [entered, entered, ← locals, ← types, ← locals]
  rfl

/-- A body is checked alike. -/
theorem checkBody_resumed (body : List Node) :
    (resumed before only checker).checkBody body =
      ((checker.checkBody body).1, resumed before only (checker.checkBody body).2) := by
  simp only [checkBody_eq, resumed, List.append_assoc]

/-- A function is checked alike: the same is written into it, and the same is collected behind what
was collected before. -/
theorem checkFunction_resumed (function : Function) :
    (resumed before only checker).checkFunction function =
      ((checker.checkFunction function).1, resumed before only (checker.checkFunction function).2) := by
  simp only [checkFunction_eq, entered_resumed, checkBody_resumed]
  cases hasReturn function.body <;> simp [resumed, note, Notice.raised_and]

/-- The whole run over the functions. -/
theorem checkFunctions_resumed (functions : List Function) :
    (resumed before only checker).checkFunctions functions =
      ((checker.checkFunctions functions).1,
        resumed before only (checker.checkFunctions functions).2) := by
  induction functions generalizing checker with
  | nil => rfl
  | cons function functions inductionHypothesis =>
    simp only [checkFunctions_cons, checkFunction_resumed, inductionHypothesis]

/-- Checking with some warnings off is checking with more of them on, and then leaving out the notices
that belong to the others. -/
theorem check_restricted (program : Program) :
    (resumed {} only checker).check program =
      ((checker.check program).1, resumed {} only (checker.check program).2) := by
  have start : (resumed {} only checker).reset = resumed {} only checker.reset := rfl
  have types (checker : Checker) : program.types.foldl declareType (resumed {} only checker) =
      resumed {} only (program.types.foldl declareType checker) :=
    List.foldl_hom (resumed {} only) fun _ _ => rfl
  have vars (checker : Checker) : program.vars.foldl declareGlobal (resumed {} only checker) =
      resumed {} only (program.vars.foldl declareGlobal checker) :=
    List.foldl_hom (resumed {} only) fun checker declared =>
      declareGlobal_resumed {} only checker declared
  have declarations : declared (resumed {} only checker) program =
      resumed {} only (declared checker program) := by
    rw [declared, declared, start, types, vars]
  simp only [check_eq, declarations, checkFunctions_resumed, checkBody_resumed]

/-- Checking a program is checking it with all warnings on, and then leaving out the notices that belong
to the warnings that are off. -/
theorem check_eq_restricted (program : Program) :
    let loud := ({ shown := fun _ => true } : Checker).check program
    checker.check program = (loud.1, resumed {} checker.shown loud.2) := by
  have start : checker.reset = (resumed {} checker.shown { shown := fun _ => true }).reset := by
    simp [reset, resumed]
  have same : checker.check program =
      (resumed {} checker.shown { shown := fun _ => true }).check program := by
    rw [check_eq, check_eq, declared, declared, start]
  rw [same, check_restricted]

/-- Which warnings are on, and what else a checker has before, decides nothing about the complaints. -/
theorem diagnostics_check_eq (other : Checker) (program : Program) :
    (checker.check program).2.diagnostics = (other.check program).2.diagnostics := by
  rw [check_eq_restricted, check_eq_restricted other]
  rfl

/-- A checker is one that starts in its scope with all warnings on, resumed with its own warnings and
with what it has collected before. -/
theorem resumed_start : resumed checker checker.shown
    { scope := checker.scope, shown := fun _ => true } = checker := by
  simp [resumed]

/-- The complaints that checking a function adds, in a given scope. -/
def functionComplaints (scope : Scope) (function : Function) : List Diagnostic :=
  (({ scope } : Checker).checkFunction function).2.diagnostics

/-- Checking a function adds its complaints to those collected before. -/
theorem diagnostics_checkFunction (function : Function) :
    (checker.checkFunction function).2.diagnostics =
      checker.diagnostics ++ functionComplaints checker.scope function := by
  have start : ({ scope := checker.scope } : Checker) =
      resumed {} Warning.initial { scope := checker.scope, shown := fun _ => true } := by
    simp [resumed]
  conv_lhs => rw [← resumed_start checker]
  rw [checkFunction_resumed, functionComplaints, start, checkFunction_resumed]
  rfl

/-- The complaints that checking some functions adds, one after another: a list for each of them. -/
def blocks : Scope → List Function → List (List Diagnostic)
  | _, [] => []
  | scope, function :: rest =>
    functionComplaints scope function ::
      blocks (({ scope } : Checker).checkFunction function).2.scope rest

/-- The whole run over the functions adds their complaints in order. -/
theorem diagnostics_checkFunctions (functions : List Function) :
    (checker.checkFunctions functions).2.diagnostics =
      checker.diagnostics ++ (blocks checker.scope functions).flatten := by
  induction functions generalizing checker with
  | nil => simp [checkFunctions_nil, blocks]
  | cons function functions inductionHypothesis =>
    have next : (checker.checkFunction function).2.scope =
        (({ scope := checker.scope } : Checker).checkFunction function).2.scope := by
      rw [checkFunction_scope, checkFunction_scope]
    calc (checker.checkFunctions (function :: functions)).2.diagnostics
        = (checker.checkFunction function).2.diagnostics ++
            (blocks (checker.checkFunction function).2.scope functions).flatten :=
          inductionHypothesis _
      _ = checker.diagnostics ++ (blocks checker.scope (function :: functions)).flatten := by
          rw [diagnostics_checkFunction, next, blocks, List.flatten_cons, List.append_assoc]

end Collecting

/-! ## Cutting a run -/

section Cutting

variable (checker : Checker)

/-- Functions are checked one after another, each where the ones before it left off. -/
theorem checkFunctions_append (earlier later : List Function) :
    checker.checkFunctions (earlier ++ later) =
      let first := checker.checkFunctions earlier
      let second := first.2.checkFunctions later
      (first.1 ++ second.1, second.2) := by
  induction earlier generalizing checker with
  | nil => rfl
  | cons function earlier inductionHypothesis =>
    simp only [List.cons_append, checkFunctions_cons, inductionHypothesis]

/-- No function is lost. -/
theorem length_checkFunctions (functions : List Function) :
    (checker.checkFunctions functions).1.length = functions.length := by
  induction functions generalizing checker with
  | nil => rfl
  | cons function functions inductionHypothesis =>
    rw [checkFunctions_cons, List.length_cons, List.length_cons, inductionHypothesis]

/-- What is written into functions depends on the scope they are met in, and on nothing else that a
checker holds. -/
theorem checkFunctions_congr {checker checker' : Checker} (place : checker'.scope = checker.scope)
    (functions : List Function) :
    (checker'.checkFunctions functions).1 = (checker.checkFunctions functions).1 := by
  induction functions generalizing checker checker' with
  | nil => rfl
  | cons function functions inductionHypothesis =>
    have next : (checker'.checkFunction function).2.scope =
        (checker.checkFunction function).2.scope := by
      rw [checkFunction_scope, checkFunction_scope, place]
    have own : (checker'.checkFunction function).1 = (checker.checkFunction function).1 := by
      rw [checkFunction_fst, checkFunction_fst, place]
    exact congrArg₂ List.cons own (inductionHypothesis next)

end Cutting

section Programs

variable (program : Program)

/-- The complaints about the body of a program. -/
def bodyComplaints : List Diagnostic :=
  diagnosticsOf (visitAll (scopeBehind program program.functions) program.body)

/-- The state in which a function is met that stands behind some others. -/
def reached (checker : Checker) (program : Program) (earlier : List Function) : Checker :=
  ((declared checker program).checkFunctions earlier).2

/-- In front of a function the scope holds the globals and the functions before it. -/
theorem reached_scope (checker : Checker) (earlier : List Function) :
    (reached checker program earlier).scope = scopeBehind program earlier := by
  have place := checkFunctions_place earlier (declared_scope checker program)
  rwa [List.nil_append] at place

/-- What is visible behind some functions depends on how they are called, not on what is in them. -/
theorem scopeBehind_congr {program other : Program} {before before' : List Function}
    (globals : globalSymbols other = globalSymbols program)
    (called : before'.map Symbol.ofFunction = before.map Symbol.ofFunction) :
    scopeBehind other before' = scopeBehind program before := by
  rw [scopeBehind, scopeBehind, globals, called]

/-- Behind a program the scope holds its globals and all its functions. -/
theorem check_scope (checker : Checker) :
    (checker.check program).2.scope = scopeBehind program program.functions :=
  reached_scope program checker program.functions

/-- The symbols of a program are those of the last scope. -/
theorem check_symbols (checker : Checker) :
    (checker.check program).2.symbols = (scopeBehind program program.functions).globals.reverse :=
  congrArg (fun scope : Scope => scope.globals.reverse) (check_scope program checker)

/-- What checking leaves behind, whether or not there is something to complain about. The symbols are
the predefined ones, the members of the types of the program, its variables except those named `d`, and
one symbol for each function, with its result and all its parameters resolved. Each of these groups is
in the order of declaration, and names declared again are in it. Nothing is left of what a function
declares inside: there are no locals, and no function is being checked.

Proof: the declarations of the program come first, and each function adds one symbol to what is visible
behind it. -/
theorem check_leaves_globals (checker : Checker) :
    (checker.check program).2.symbols =
      [{ name := "d", role := .var, type := .integer, decl := .plain .integer },
        { name := "read", role := .builtin, type := .void },
        { name := "output", role := .builtin, type := .void }] ++
      (program.types.flatMap fun definition => definition.values.map fun name =>
        { name, role := .member, type := .integer, decl := .named definition.name
          tok := definition.tok }) ++
      ((program.vars.filter fun declared => declared.name ≠ "d").map fun declared =>
        { name := declared.name, role := .var, type := declared.type.resolved
          decl := declared.type, tok := declared.tok }) ++
      (program.functions.map fun function =>
        { name := function.name, role := .function, type := function.result.resolved
          decl := function.result, params := function.params.map fun param => param.type.resolved
          tok := function.tok }) ∧
    (checker.check program).2.scope.locals = [] ∧
    (checker.check program).2.scope.owner = none := by
  refine ⟨?_, ?_, ?_⟩
  · rw [check_symbols, scopeBehind, List.reverse_append, List.reverse_reverse, globalSymbols_reverse]
    rfl
  · rw [check_scope]
    rfl
  · rw [check_scope]
    rfl

variable {program} {earlier later : List Function} {function : Function}
  (cut : program.functions = earlier ++ function :: later) (checker : Checker)

include cut

/-- The complaints about a program: those collected when a function is met, those that the function
adds, and those that the functions behind it and the body add. -/
theorem check_diagnostics_cut :
    (checker.check program).2.diagnostics =
      (reached checker program earlier).diagnostics ++
        functionComplaints (scopeBehind program earlier) function ++
        ((blocks (scopeBehind program (earlier ++ [function])) later).flatten ++
          bodyComplaints program) := by
  have next : (({ scope := scopeBehind program earlier } : Checker).checkFunction function).2.scope =
      scopeBehind program (earlier ++ [function]) := checkFunction_place rfl
  have run : ((declared checker program).checkFunctions program.functions).2 =
      ((reached checker program earlier).checkFunctions (function :: later)).2 := by
    rw [cut, checkFunctions_append]
    rfl
  rw [check_diagnostics, run, diagnostics_checkFunctions, reached_scope, blocks, next,
    List.flatten_cons]
  simp only [bodyComplaints, List.append_assoc]

/-- A function is checked in the scope behind the functions before it, and the others behind it. -/
theorem check_functions_cut :
    (checker.check program).1.functions =
      ((declared checker program).checkFunctions earlier).1 ++
        tagged (scopeBehind program earlier) function ::
          (({ scope := scopeBehind program (earlier ++ [function]) } : Checker).checkFunctions
            later).1 := by
  have place := reached_scope program checker earlier
  have next : ((reached checker program earlier).checkFunction function).2.scope =
      scopeBehind program (earlier ++ [function]) := checkFunction_place place
  have own : ((reached checker program earlier).checkFunction function).1 =
      tagged (scopeBehind program earlier) function := by
    rw [checkFunction_fst, place]
  rw [check_functions, cut, checkFunctions_append]
  exact congrArg₂ _ rfl (congrArg₂ List.cons own (checkFunctions_congr next later))

end Programs

/-- Exchanging what a function declares and does, but not how it is called, changes the complaints that
checking this function adds and nothing else: the symbols of the program, the complaints collected
before it, those of the functions behind it and of the body, and the tags everywhere else stay the
same. -/
theorem check_frame (checker : Checker) {program : Program} {earlier later : List Function}
    {function : Function} (cut : program.functions = earlier ++ function :: later)
    (types : List TypeDef) (locals : List Variable) (body : List Node) :
    let refilled := { function with types, locals, body }
    let other := { program with functions := earlier ++ refilled :: later }
    let scope := scopeBehind program earlier
    let first := (reached checker program earlier).diagnostics
    let last := (blocks (scopeBehind program (earlier ++ [function])) later).flatten ++
      bodyComplaints program
    (checker.check other).2.symbols = (checker.check program).2.symbols ∧
      (checker.check program).2.diagnostics = first ++ functionComplaints scope function ++ last ∧
      (checker.check other).2.diagnostics = first ++ functionComplaints scope refilled ++ last ∧
      (∀ index, index ≠ earlier.length →
        (checker.check other).1.functions[index]? = (checker.check program).1.functions[index]?) ∧
      (checker.check other).1.body = (checker.check program).1.body := by
  intro refilled other scope first last
  have same : other.functions = earlier ++ refilled :: later := rfl
  have called (later : List Function) : (earlier ++ refilled :: later).map Symbol.ofFunction =
      (earlier ++ function :: later).map Symbol.ofFunction := by
    simp only [List.map_append, List.map_cons]
    rfl
  have next : scopeBehind other (earlier ++ [refilled]) =
      scopeBehind program (earlier ++ [function]) := scopeBehind_congr rfl (called [])
  have whole : scopeBehind other other.functions = scopeBehind program program.functions := by
    rw [cut]
    exact scopeBehind_congr rfl (called later)
  have bodies : bodyComplaints other = bodyComplaints program := by
    rw [bodyComplaints, whole]
    rfl
  refine ⟨?_, check_diagnostics_cut cut checker, ?_, ?_, ?_⟩
  · rw [check_symbols, check_symbols, whole]
  · rw [check_diagnostics_cut same, next, bodies]
    rfl
  · intro index elsewhere
    have declarations : declared checker other = declared checker program := rfl
    have length := length_checkFunctions (declared checker program) earlier
    rw [check_functions_cut same, check_functions_cut cut, next, declarations]
    rcases Nat.lt_or_gt_of_ne elsewhere with inFront | behind
    · rw [List.getElem?_append_left (by omega), List.getElem?_append_left (by omega)]
    · obtain ⟨offset, rfl⟩ : ∃ offset, index = earlier.length + (offset + 1) :=
        ⟨index - earlier.length - 1, by omega⟩
      rw [← length, List.getElem?_append_right (Nat.le_add_right _ _),
        List.getElem?_append_right (Nat.le_add_right _ _), Nat.add_sub_cancel_left,
        List.getElem?_cons_succ, List.getElem?_cons_succ]
  · rw [check_body, check_body, whole]

/-- A function that returns a variable, which it may declare. -/
def returning (name value : String) (locals : List Variable) : Function where
  name
  result := .plain .integer
  locals
  body := [.returnOf {} (.name {} .unknown value)]
  tok := {}

/-- A program whose second function declares a variable that its last function and its body use. -/
def neighbours : Program where
  name := "p"
  endName := "p"
  functions := [returning "f" "y" [], returning "g" "x" [⟨"x", .plain .integer, {}, .withinFunction⟩],
    returning "h" "x" []]
  body := [.assign {} (.name {} .unknown "d") (.name {} .unknown "x")]
  tok := {}

/-- The second function is left without its variable, and returns another one: there is one complaint
more, between the others. -/
theorem check_frame_neighbours :
    let other := { neighbours with
      functions := [returning "f" "y" []] ++ returning "g" "z" [] :: [returning "h" "x" []] }
    (Checker.check {} neighbours).2.diagnostics.map Diagnostic.complaint =
        [.undeclaredVariable "y", .undeclaredVariable "x", .undeclaredVariable "x"] ∧
      (Checker.check {} other).2.diagnostics.map Diagnostic.complaint =
        [.undeclaredVariable "y", .undeclaredVariable "z", .undeclaredVariable "x",
          .undeclaredVariable "x"] := by
  intro other
  have cut : neighbours.functions = [returning "f" "y" []] ++
      returning "g" "x" [⟨"x", .plain .integer, {}, .withinFunction⟩] :: [returning "h" "x" []] := rfl
  obtain ⟨-, complaints, exchanged, -⟩ := check_frame {} cut [] []
    [.returnOf {} (.name {} .unknown "z")]
  constructor
  · rw [complaints]
    decide
  · have run : (Checker.check {} other).2.diagnostics = _ := exchanged
    rw [run]
    decide

end WinZig.Typing
