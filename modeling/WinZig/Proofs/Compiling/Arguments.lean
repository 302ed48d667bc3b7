import Mathlib.Data.List.Basic
import WinZig.Compiler.Command

/-!
# Options, and paths behind them

An argument list is options followed by the paths of files. Options are accepted by themselves and
leave no positional argument. Whether an argument behind them is taken as a path is a matter of that
argument alone: it does not look like a flag, or the options end in the separator. So paths that are
taken one by one are taken together, and the flags are those of the options.
-/

namespace WinZig

namespace FlagSet

variable {set flags : FlagSet} {options paths : List String}

/-- Positional arguments kept in two rounds are kept in one. -/
theorem keep_keep (set : FlagSet) (first second : List String) :
    (set.keep first).keep second = set.keep (first ++ second) := by
  simp [keep]

/-- Naming a flag and giving it a value leaves the positional arguments. -/
theorem assign_args (set : FlagSet) (name value : String) :
    (set.assign name value).1.args = set.args := by
  unfold assign
  dsimp only
  split
  · rfl
  · split <;> rfl

/-- Behind accepted arguments either everything is positional or reading goes on. -/
theorem readAll_append (accepted : set.readAll options = (flags, none)) :
    (∀ others, set.readAll (options ++ others) = (flags.keep others, none)) ∨
      ∀ others, set.readAll (options ++ others) = flags.readAll others := by
  fun_induction readAll set options with
  | case1 set =>
    obtain ⟨rfl, -⟩ := Prod.mk.inj accepted
    exact .inr fun _ => rfl
  | case2 set argument rest positional inductionHypothesis =>
    simp only [List.cons_append, readAll, positional]
    exact inductionHypothesis accepted
  | case3 set argument rest separator =>
    obtain ⟨rfl, -⟩ := Prod.mk.inj accepted
    left
    intro others
    simp only [List.cons_append, readAll, separator, keep_keep]
  | case5 set argument rest name value complete changed assigned inductionHypothesis =>
    simp only [List.cons_append, readAll, complete, assigned]
    exact inductionHypothesis accepted
  | case8 set argument name spelling awaiting value rest changed assigned inductionHypothesis =>
    simp only [List.cons_append, readAll, awaiting, assigned]
    exact inductionHypothesis accepted
  | case4 | case6 | case7 | case9 => exact absurd (congrArg Prod.snd accepted) (by simp)

/-- An argument that ends up as the only positional one is positional. -/
theorem read_of_taken {path : String} {taken : FlagSet} (nothing : flags.args = [])
    (accepted : flags.readAll [path] = (taken, none)) (only : taken.args = [path]) :
    flags.read path = .positional := by
  cases reading : flags.read path with
  | positional => rfl
  | separator =>
    simp only [readAll, reading, keep, List.append_nil, Prod.mk.injEq, and_true] at accepted
    rw [← accepted, nothing] at only
    exact absurd only (by simp)
  | refused error => simp [readAll, reading] at accepted
  | awaiting name spelling => simp [readAll, reading] at accepted
  | complete name value =>
    have unchanged := assign_args flags name value
    simp only [readAll, reading] at accepted
    split at accepted
    · next changed assigned =>
      obtain ⟨rfl, -⟩ := Prod.mk.inj accepted
      rw [assigned, nothing] at unchanged
      exact absurd (unchanged.symm.trans only) (by simp)
    · exact absurd (congrArg Prod.snd accepted) (by simp)

/-- A line of positional arguments keeps them all, in order. -/
theorem readAll_positional (set : FlagSet) (each : ∀ path ∈ paths, set.read path = .positional) :
    set.readAll paths = (set.keep paths, none) := by
  induction paths generalizing set with
  | nil => simp [readAll, keep]
  | cons path paths inductionHypothesis =>
    rw [List.forall_mem_cons] at each
    have others := inductionHypothesis (set.keep [path]) each.2
    simp only [readAll, each.1, others, keep_keep, List.singleton_append]

/-- Paths that are taken one by one behind options are taken together. -/
theorem parse_append (accepted : set.parse options = (flags, none)) (nothing : flags.args = [])
    (each : ∀ path ∈ paths, ∃ taken, set.parse (options ++ [path]) = (taken, none) ∧
      taken.args = [path]) :
    set.parse (options ++ paths) = (flags.keep paths, none) := by
  rcases readAll_append accepted with positional | goesOn
  · exact positional paths
  · rw [parse, goesOn]
    apply readAll_positional
    intro path member
    obtain ⟨taken, parsed, only⟩ := each path member
    exact read_of_taken nothing ((goesOn [path]).symm.trans parsed) only

end FlagSet

namespace App

variable {app : App} {options paths : List String} {flags : FlagSet}

/-- Behind some options, an argument is taken as the path of a file. -/
def TakesPath (app : App) (options : List String) (path : String) : Prop :=
  ∃ flags, app.request (options ++ [path]) = .action flags ∧ flags.args = [path]

/-- An argument list asks for the action exactly if it is accepted and does not ask for help. -/
theorem request_eq_action {arguments : List String} :
    app.request arguments = .action flags ↔
      app.flags.parse arguments = (flags, none) ∧ flags.isOn helpFlag.name = false := by
  unfold request
  constructor
  · intro asked
    split at asked
    · exact absurd asked (by simp)
    · next read parsed =>
      split at asked
      · exact absurd asked (by simp)
      · next silent =>
        obtain rfl := Request.action.inj asked
        exact ⟨parsed, by simpa using silent⟩
  · rintro ⟨parsed, silent⟩
    simp [parsed, silent]

/-- The action is asked for with all paths that are taken one by one. -/
theorem request_append (accepted : app.request options = .action flags) (nothing : flags.args = [])
    (each : ∀ path ∈ paths, app.TakesPath options path) :
    app.request (options ++ paths) = .action (flags.keep paths) := by
  obtain ⟨parsed, silent⟩ := request_eq_action.mp accepted
  apply request_eq_action.mpr
  constructor
  · apply FlagSet.parse_append parsed nothing
    intro path member
    obtain ⟨taken, asked, only⟩ := each path member
    exact ⟨taken, (request_eq_action.mp asked).1, only⟩
  · exact silent

end App

namespace Output

/-- The error stream of one output after another. -/
theorem stderr_append (first second : Output) :
    (first ++ second).stderr = first.stderr ++ second.stderr := rfl

/-- Stages and listings leave the error stream alone. -/
theorem stderr_when (condition : Bool) (text : String) : (when condition (out text)).stderr = "" := by
  cases condition <;> rfl

end Output

namespace Command

variable {years : String} {tree : FileTree} {options paths : List String} {flags : FlagSet}
  {settings : Settings} {mode : ColorMode}

/-- A run with paths behind options compiles the files at the paths, with the settings of the options,
and then prints how many problems they have if stages are to be printed. -/
theorem run_append (accepted : app.request options = .action flags) (nothing : flags.args = [])
    (configured : configure FileSettings.ofText tree flags = .ok (settings, mode))
    (each : ∀ path ∈ paths, app.TakesPath options path) (some : paths ≠ []) :
    let session := Session.compileAll (compileOptions flags mode) settings tree paths
    run years tree (options ++ paths) =
      ⟨if session.failed then 1 else 0, session.output ++ .when (flags.isOn "verbose")
        (.out s!"Checked {paths.length} file(s), {session.problems} diagnostic(s).\n")⟩ := by
  have asked := App.request_append accepted nothing each
  have same : configure FileSettings.ofText tree (flags.keep paths) = .ok (settings, mode) := configured
  have args : (flags.keep paths).args = paths := by simp [FlagSet.keep, nothing]
  simp only [run, asked, action, same, args, List.isEmpty_iff, some, if_false]
  rfl

end Command

end WinZig
