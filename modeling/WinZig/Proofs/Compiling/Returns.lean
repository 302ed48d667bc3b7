import WinZig.Proofs.Compiling.Reports
import WinZig.Proofs.Inspection

/-!
# Functions without a return statement

A function is remarked on when it is left, if no return statement stands in its body. Other remarks are
made while it is entered, so the remarks on several functions are mixed. Among them, those on missing
return statements stand in the order of the functions, and each function gets at most one.
-/

namespace WinZig

/-- Whether a remark says that a function has no return statement. -/
def Remark.isNoReturn : Remark → Bool
  | noReturn _ => true
  | _ => false

namespace Checker

/-- The notices on functions without a return statement. -/
def returnNotices (checker : Checker) : List Notice :=
  checker.notices.filter fun notice => notice.remark.isNoReturn

/-- The functions in whose body no return statement stands. -/
def unreturning (functions : List Function) : List Function :=
  functions.filter fun function => ¬ ReturnsIn function.body

/-- What is raised on those of some functions in whose body no return statement stands. -/
def noReturnNotices (shown : Warning → Bool) (functions : List Function) : List Notice :=
  (unreturning functions).flatMap fun function =>
    Notice.raised shown function.tok (.noReturn function.name)

/-- Functions are remarked on one by one. -/
theorem noReturnNotices_cons (shown : Warning → Bool) (function : Function)
    (functions : List Function) :
    noReturnNotices shown (function :: functions) =
      noReturnNotices shown [function] ++ noReturnNotices shown functions := by
  have split : unreturning (function :: functions) = unreturning [function] ++ unreturning functions :=
    List.filter_append [function] functions
  rw [noReturnNotices, split, List.flatMap_append]
  rfl

/-! ## Declarations -/

/-- What no step does, none of them do together. -/
theorem returnNotices_foldl {α : Type} (declare : Checker → α → Checker)
    (keeps : ∀ checker declared, (declare checker declared).returnNotices = checker.returnNotices)
    (list : List α) (checker : Checker) :
    (list.foldl declare checker).returnNotices = checker.returnNotices := by
  induction list generalizing checker with
  | nil => rfl
  | cons declared list inductionHypothesis =>
    rw [List.foldl_cons, inductionHypothesis, keeps]

/-- A variable of the program makes no remark at all. -/
theorem returnNotices_declareGlobal (checker : Checker) (declared : Variable) :
    (declareGlobal checker declared).returnNotices = checker.returnNotices := by
  unfold declareGlobal
  split
  · rfl
  · dsimp only
    split <;> rfl

/-- A declaration may hide a variable of the program, which is another kind of remark. -/
theorem returnNotices_declareLocal (role : Role) (checker : Checker) (declared : Variable) :
    (declareLocal role checker declared).returnNotices = checker.returnNotices := by
  unfold declareLocal
  dsimp only
  split
  · rfl
  · split
    · rw [returnNotices, note, List.filter_append, Notice.raised]
      split <;> simp [returnNotices, Remark.isNoReturn]
    · rfl

/-- Entering a function makes no remark of this kind. -/
theorem returnNotices_entered (checker : Checker) (function : Function) :
    (Typing.entered checker function).returnNotices = checker.returnNotices := by
  rw [Typing.entered, returnNotices_foldl _ (returnNotices_declareLocal .var),
    returnNotices_foldl declareLocalType fun _ _ => rfl,
    returnNotices_foldl _ (returnNotices_declareLocal .parameter)]
  rfl

/-! ## Functions -/

/-- One step: a function adds its notice exactly if no return statement stands in its body. -/
theorem returnNotices_checkFunction (checker : Checker) (function : Function) :
    (checker.checkFunction function).2.returnNotices =
      checker.returnNotices ++ noReturnNotices checker.shown [function] := by
  rw [Typing.checkFunction_eq, hasReturn_eq_meetsReturn, ← returnNotices_entered checker function,
    ← Typing.entered_shown checker function]
  by_cases returns : ReturnsIn function.body
  · simp [noReturnNotices, unreturning, returns, meetsReturn_iff.mpr returns, returnNotices,
      checkBody_eq]
  · have kind (shown : Warning → Bool) : (Notice.raised shown function.tok
        (.noReturn function.name)).filter (fun notice => notice.remark.isNoReturn) =
        Notice.raised shown function.tok (.noReturn function.name) := by
      rw [Notice.raised]
      split <;> rfl
    simp [noReturnNotices, unreturning, returns, mt meetsReturn_iff.mp returns, returnNotices,
      checkBody_eq, note, kind]

/-- The whole run over the functions. -/
theorem returnNotices_checkFunctions (checker : Checker) (functions : List Function) :
    (checker.checkFunctions functions).2.returnNotices =
      checker.returnNotices ++ noReturnNotices checker.shown functions := by
  induction functions generalizing checker with
  | nil => simp [checkFunctions_nil, noReturnNotices, unreturning]
  | cons function functions inductionHypothesis =>
    calc (checker.checkFunctions (function :: functions)).2.returnNotices
        = (checker.checkFunction function).2.returnNotices ++
            noReturnNotices (checker.checkFunction function).2.shown functions :=
          inductionHypothesis _
      _ = checker.returnNotices ++ noReturnNotices checker.shown (function :: functions) := by
          rw [returnNotices_checkFunction, Typing.checkFunction_shown,
            noReturnNotices_cons checker.shown function functions, List.append_assoc]

/-- The whole program: its variables and types make no remark of this kind. -/
theorem returnNotices_check (checker : Checker) (program : Program) :
    (checker.check program).2.returnNotices = noReturnNotices checker.shown program.functions := by
  have start : (Typing.declared checker program).returnNotices = [] := by
    rw [Typing.declared, returnNotices_foldl _ returnNotices_declareGlobal,
      returnNotices_foldl declareType fun _ _ => rfl]
    rfl
  calc (checker.check program).2.returnNotices
      = ((Typing.declared checker program).checkFunctions program.functions).2.returnNotices := rfl
    _ = noReturnNotices checker.shown program.functions := by
        rw [returnNotices_checkFunctions, start, Typing.declared_shown, List.nil_append]

/-- Missing return statements are warned about exactly. If the warning is on, the reports on them among
those that are printed are one for each function in whose body no return statement stands at any depth,
in the order of the functions. If it is off, there are none. The search for return statements stops
early, and it gives on all bodies what a walk gives that goes everywhere.

Proof: entering a function makes no remark of this kind, and leaving it makes one exactly if the search
found nothing. -/
theorem missing_returns_reported (checker : Checker) (program : Program) (reporter : Reporter) :
    let printed := (checker.check program).2.notices
    (∀ body, hasReturn body = meetsReturn body ∧ (meetsReturn body = true ↔ ReturnsIn body)) ∧
      reporter.notices printed = String.join (printed.map reporter.notice) ∧
      (printed.filter fun notice => notice.remark.isNoReturn).map reporter.notice =
        if checker.shown .extra then
          (unreturning program.functions).map fun function =>
            reporter.report .warning "warning:" function.tok function.tok.start
              s!"Function '{function.name}' has no return statement" " [-Wextra]"
        else [] := by
  intro printed
  refine ⟨fun body => ⟨hasReturn_eq_meetsReturn body, meetsReturn_iff⟩, rfl, ?_⟩
  have kept : printed.filter (fun notice => notice.remark.isNoReturn) =
      noReturnNotices checker.shown program.functions := returnNotices_check checker program
  rw [kept, noReturnNotices, List.map_flatMap]
  cases on : checker.shown .extra with
  | true =>
    simp only [Notice.raised, Remark.warning, on, if_true, List.map_singleton]
    exact List.flatMap_pure_eq_map _ _
  | false => simp [Notice.raised, Remark.warning, on]

end Checker

end WinZig
