import WinZig.Checker.Program
import WinZig.Proofs.Typing.Expressions

/-!
# Declarations, one after another

Declaring adds symbols to a scope whatever happens, so what is visible afterwards does not depend on
complaints. There is no new complaint exactly if every variable is fresh when its turn comes.

The step lemmas say what one declaration adds and when it is silent; the lemmas about folds follow
by induction on the list of declarations.
-/

namespace WinZig.Typing

open Checker

/-! ## Freshness -/

/-- What holds wherever a list is cut holds at its head and wherever its tail is cut. -/
theorem forall_cut_cons {α : Type} {holds : List α → α → Prop} {first : α} {others : List α} :
    (∀ before only behind, first :: others = before ++ only :: behind → holds before only) ↔
      holds [] first ∧ ∀ before only behind, others = before ++ only :: behind →
        holds (first :: before) only := by
  constructor
  · intro all
    refine ⟨all [] first others rfl, fun before only behind cut => ?_⟩
    exact all (first :: before) only behind (by rw [cut, List.cons_append])
  · rintro ⟨head, tail⟩ before only behind cut
    cases before with
    | nil =>
      obtain ⟨rfl, -⟩ := List.cons.inj cut
      exact head
    | cons earlier before =>
      obtain ⟨rfl, rest⟩ := List.cons.inj cut
      exact tail before only behind rest

/-- No declarations are fresh. -/
theorem fresh_nil {taken : List String} : Fresh taken [] := by
  intro earlier declared later cut
  simp at cut

/-- Declarations are fresh if the first one is, and the others are behind it. -/
theorem fresh_cons {taken : List String} {declared : Variable} {vars : List Variable} :
    Fresh taken (declared :: vars) ↔
      declared.name ∉ taken ∧ Fresh (declared.name :: taken) vars := by
  unfold Fresh
  rw [forall_cut_cons]
  simp only [List.map_nil, List.not_mem_nil, not_false_eq_true, and_true, List.map_cons,
    List.mem_cons, not_or]
  refine and_congr_right fun _ => ?_
  constructor
  · intro others earlier declared later cut
    obtain ⟨free, different, new⟩ := others earlier declared later cut
    exact ⟨⟨different, free⟩, new⟩
  · intro others earlier declared later cut
    obtain ⟨⟨different, free⟩, new⟩ := others earlier declared later cut
    exact ⟨free, different, new⟩

/-- Only the names that some variable has matter. -/
theorem fresh_congr {taken taken' : List String} {vars : List Variable}
    (same : ∀ declared ∈ vars, declared.name ∈ taken ↔ declared.name ∈ taken') :
    Fresh taken vars ↔ Fresh taken' vars := by
  unfold Fresh
  refine forall_congr' fun earlier => forall_congr' fun declared => forall_congr' fun later =>
    forall_congr' fun cut => ?_
  rw [same declared (by simp [cut])]

/-- The names of the symbols that cannot be called. -/
def variableNames (symbols : List Symbol) : List String := (variablesOf symbols).map Prod.fst

/-- The names of variables are those of symbols that cannot be called. -/
theorem mem_variableNames {symbols : List Symbol} {name : String} :
    name ∈ variableNames symbols ↔
      ∃ sym ∈ symbols, sym.role.isCallable = false ∧ sym.name = name := by
  simp [variableNames, variablesOf, and_assoc]

/-- The names of variables do not depend on their order. -/
theorem mem_variableNames_reverse {symbols : List Symbol} {name : String} :
    name ∈ variableNames symbols.reverse ↔ name ∈ variableNames symbols := by
  simp [mem_variableNames]

/-- A name is not found exactly when it is none of a variable. -/
theorem any_isNamed_eq_false {symbols : List Symbol} {name : String} :
    symbols.any (Scope.isNamed false name) = false ↔ name ∉ variableNames symbols := by
  simp only [List.any_eq_false, mem_variableNames, Scope.isNamed, Bool.and_eq_true, beq_iff_eq,
    not_exists, not_and]
  exact forall_congr' fun sym => forall_congr' fun _ =>
    ⟨fun named role same => named same role, fun named same role => named role same⟩

/-- A variable adds its name to those of variables. -/
theorem variableNames_ofVariable {role : Role} (plain : role.isCallable = false)
    (declared : Variable) (symbols : List Symbol) :
    variableNames (.ofVariable role declared :: symbols) =
      declared.name :: variableNames symbols := by
  simp [variableNames, variablesOf, Symbol.ofVariable, plain]

/-! ## Declarations of the program -/

/-- Adding globals one by one is adding them in reverse. -/
theorem foldl_addGlobal (symbols : List Symbol) (scope : Scope) :
    symbols.foldl Scope.addGlobal scope =
      { scope with globals := symbols.reverse ++ scope.globals } := by
  induction symbols generalizing scope with
  | nil => rfl
  | cons sym symbols ih => rw [List.foldl_cons, ih, Scope.addGlobal, List.reverse_cons,
      List.append_assoc, List.singleton_append]

/-- Declaring types adds their members to the globals. -/
theorem foldl_declareType (types : List TypeDef) (checker : Checker) :
    types.foldl declareType checker =
      { checker with scope := { checker.scope with
        globals := (types.flatMap Symbol.membersOf).reverse ++ checker.scope.globals } } := by
  induction types generalizing checker with
  | nil => rfl
  | cons definition types ih =>
    rw [List.foldl_cons, ih, declareType, foldl_addGlobal, List.flatMap_cons, List.reverse_append,
      List.append_assoc]

/-- The variable `d` is not declared again; any other variable is. -/
theorem declareGlobal_scope (checker : Checker) (declared : Variable) :
    (declareGlobal checker declared).scope =
      if declared.name = Checker.discard then checker.scope
      else checker.scope.addGlobal (.ofVariable .var declared) := by
  unfold declareGlobal
  split
  · rfl
  · dsimp only
    split <;> rfl

/-- A global adds no complaint exactly when its name is new. -/
theorem declareGlobal_eq_nil {checker : Checker} {declared : Variable}
    (other : declared.name ≠ Checker.discard) :
    (declareGlobal checker declared).diagnostics = [] ↔
      checker.diagnostics = [] ∧ declared.name ∉ variableNames checker.scope.globals := by
  rw [← any_isNamed_eq_false, declareGlobal, if_neg other]
  dsimp only
  cases checker.scope.globals.any (Scope.isNamed false declared.name) <;> simp [complain]

/-- Declaring globals adds those that are not discarded. -/
theorem foldl_declareGlobal_scope (vars : List Variable) (checker : Checker) :
    (vars.foldl declareGlobal checker).scope =
      { checker.scope with
        globals := ((vars.filter fun declared => declared.name ≠ Checker.discard).map
          (Symbol.ofVariable .var)).reverse ++ checker.scope.globals } := by
  induction vars generalizing checker with
  | nil => rfl
  | cons declared vars ih =>
    rw [List.foldl_cons, ih, declareGlobal_scope]
    by_cases same : declared.name = Checker.discard
    · simp [same]
    · simp [same, Scope.addGlobal]

/-- Globals add no complaint exactly when those that are not discarded are fresh. -/
theorem foldl_declareGlobal_eq_nil (vars : List Variable) (checker : Checker) :
    (vars.foldl declareGlobal checker).diagnostics = [] ↔
      checker.diagnostics = [] ∧ Fresh (variableNames checker.scope.globals)
        (vars.filter fun declared => declared.name ≠ Checker.discard) := by
  induction vars generalizing checker with
  | nil => simp [fresh_nil]
  | cons declared vars ih =>
    rw [List.foldl_cons, ih, declareGlobal_scope]
    by_cases same : declared.name = Checker.discard
    · simp [same, declareGlobal]
    · rw [if_neg same, declareGlobal_eq_nil same, List.filter_cons_of_pos (by simpa using same),
        fresh_cons, Scope.addGlobal, variableNames_ofVariable rfl, and_assoc]

/-! ## Declarations of a function -/

/-- Adding locals one by one is adding them in reverse. -/
theorem foldl_addLocal (symbols : List Symbol) (scope : Scope) :
    symbols.foldl Scope.addLocal scope =
      { scope with locals := symbols.reverse ++ scope.locals } := by
  induction symbols generalizing scope with
  | nil => rfl
  | cons sym symbols ih => rw [List.foldl_cons, ih, Scope.addLocal, List.reverse_cons,
      List.append_assoc, List.singleton_append]

/-- Declaring local types adds their members to the locals. -/
theorem foldl_declareLocalType (types : List TypeDef) (checker : Checker) :
    types.foldl declareLocalType checker =
      { checker with scope := { checker.scope with
        locals := (types.flatMap Symbol.membersOf).reverse ++ checker.scope.locals } } := by
  induction types generalizing checker with
  | nil => rfl
  | cons definition types ih =>
    rw [List.foldl_cons, ih, declareLocalType, foldl_addLocal, List.flatMap_cons,
      List.reverse_append, List.append_assoc]

/-- A local is added to the scope, with or without a complaint. -/
theorem declareLocal_scope (role : Role) (checker : Checker) (declared : Variable) :
    (declareLocal role checker declared).scope =
      checker.scope.addLocal (.ofVariable role declared) := by
  unfold declareLocal
  dsimp only
  split
  · rfl
  · split <;> rfl

/-- A local adds no complaint exactly when its name is new. -/
theorem declareLocal_eq_nil {role : Role} {checker : Checker} {declared : Variable} :
    (declareLocal role checker declared).diagnostics = [] ↔
      checker.diagnostics = [] ∧ declared.name ∉ variableNames checker.scope.locals := by
  rw [← any_isNamed_eq_false, declareLocal]
  dsimp only
  split
  · next taken => simp [complain, taken]
  · next free =>
    split <;> simp [note, free]

/-- Declaring locals adds all of them. -/
theorem foldl_declareLocal_scope (role : Role) (vars : List Variable) (checker : Checker) :
    (vars.foldl (declareLocal role) checker).scope =
      { checker.scope with
        locals := (vars.map (Symbol.ofVariable role)).reverse ++ checker.scope.locals } := by
  induction vars generalizing checker with
  | nil => rfl
  | cons declared vars ih =>
    rw [List.foldl_cons, ih, declareLocal_scope]
    simp [Scope.addLocal]

/-- Locals add no complaint exactly when they are fresh. -/
theorem foldl_declareLocal_eq_nil {role : Role} (plain : role.isCallable = false)
    (vars : List Variable) (checker : Checker) :
    (vars.foldl (declareLocal role) checker).diagnostics = [] ↔
      checker.diagnostics = [] ∧ Fresh (variableNames checker.scope.locals) vars := by
  induction vars generalizing checker with
  | nil => simp [fresh_nil]
  | cons declared vars ih =>
    rw [List.foldl_cons, ih, declareLocal_eq_nil, declareLocal_scope, fresh_cons, Scope.addLocal,
      variableNames_ofVariable plain, and_assoc]

end WinZig.Typing
