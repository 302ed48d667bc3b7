import WinZig.Golden.Normal
import WinZig.Golden.Result

/-!
# Comparing results

Two results agree if they ended alike and, made comparable, report and print the same, and if the
second printed the same on every run. What they printed on standard output is compared only if the
reports agree, for otherwise one difference would be told twice.
-/

namespace WinZig.Golden

/-- In what two results differ. -/
inductive Mismatch where
  | exitCode (reference target : Int)
  | timeout (reference target : Bool)
  | unstable
  | diagnostics
  | stdout
  | stderr
deriving DecidableEq, Repr

/-- How a difference reads. -/
def Mismatch.text : Mismatch → String
  | exitCode reference target =>
    s!"Exit Code mismatch:\n  - Ref:    {reference}\n  - Target: {target}\n"
  | timeout reference target =>
    s!"Timeout mismatch:\n  - Ref:    {reference}\n  - Target: {target}\n"
  | unstable => "Target output differed between runs.\n"
  | diagnostics => "Diagnostics mismatch:\n"
  | stdout => "STDOUT mismatch:\n"
  | stderr => "STDERR mismatch:\n"

/-- The lines of a result that report something, made comparable. -/
def CompileResult.comparableReports (ignored : List String) (result : CompileResult) :
    List String :=
  normalizeLines result.source ignored result.diagnostics

/-- An output of a result, made comparable. -/
def CompileResult.comparable (ignored : List String) (result : CompileResult)
    (stream : Execution → String) : String :=
  normalize result.source ignored (stream result.result)

/-- All differences of two results. -/
def mismatches (ignored : List String) (reference target : CompileResult) : List Mismatch :=
  let ended :=
    if reference.result.exitCode = target.result.exitCode then []
    else [.exitCode reference.result.exitCode target.result.exitCode]
  let timed :=
    if reference.result.timedOut = target.result.timedOut then []
    else [.timeout reference.result.timedOut target.result.timedOut]
  let settled := if target.result.unstable then [.unstable] else []
  let printed :=
    if reference.comparableReports ignored ≠ target.comparableReports ignored then [.diagnostics]
    else if reference.comparable ignored Execution.stdout ≠
        target.comparable ignored Execution.stdout then [.stdout]
    else []
  let reported :=
    if reference.comparable ignored Execution.stderr ≠
      target.comparable ignored Execution.stderr then [.stderr] else []
  ended ++ timed ++ settled ++ printed ++ reported

/-- The message on results that agree. -/
def agreement (target : CompileResult) : String :=
  if target.result.exitCode = 0 then "Compiled cleanly, as expected"
  else s!"Rejected with {target.diagnostics.length} matching diagnostic(s)"

/-- The verdict on a file for which there are two results. -/
def compare (file : String) (ignored : List String) (reference target : CompileResult) : Verdict :=
  match mismatches ignored reference target with
  | [] =>
    { file, status := .pass, message := agreement target
      reference := some reference, target := some target }
  | found =>
    { file, status := .fail, message := "Diagnostics or exit code mismatch"
      diff := String.join (found.map Mismatch.text)
      reference := some reference, target := some target }

end WinZig.Golden
