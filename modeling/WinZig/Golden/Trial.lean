import WinZig.Files.Tree
import WinZig.Golden.Normal
import WinZig.Golden.Result
import WinZig.Text.Quoted

/-!
# Trying a compiler on a file

A compiler is run on a file a number of times. The first run counts; a later one that ends or prints
otherwise makes the result unstable, and the shortest run gives the duration. Runs that could not be
made or were stopped end the trial.
-/

namespace WinZig.Golden

/-- The commands there are, and what comes of running one on some arguments. -/
structure Host where
  tree : FileTree
  /-- The paths of the commands. -/
  commands : List String
  run : (command : String) → (arguments : List String) → Execution

namespace Host

/-- Whether a path leads to a command. -/
def hasCommand (host : Host) (path : String) : Bool :=
  path.toList.contains '/' && host.commands.contains (Path.absolute host.tree.workingPath path)

/-- Why a command cannot be run. -/
def refusal (host : Host) (path : String) : String :=
  if path = "" then "exec: no command"
  else if !path.toList.contains '/' then
    s!"exec: {Text.quote path}: executable file not found in $PATH"
  else match host.tree.find path with
    | .ok _ => s!"fork/exec {path}: permission denied"
    | .error problem => s!"fork/exec {path}: {problem.message}"

/-- One run of a command. A command that cannot be run ends with a code of its own. -/
def execute (host : Host) (path : String) (arguments : List String) : Execution :=
  if host.hasCommand path then
    host.run (Path.absolute host.tree.workingPath path) arguments
  else
    { exitCode := -2, stderr := s!"\nExecution error: {host.refusal path}" }

end Host

/-- Whether two runs ended and printed alike, but for lines to be ignored. -/
def sameRun (ignored : List String) (first other : Execution) : Bool :=
  first.exitCode == other.exitCode &&
    withoutIgnored ignored first.stdout == withoutIgnored ignored other.stdout &&
    withoutIgnored ignored first.stderr == withoutIgnored ignored other.stderr

/-- Whether a run was stopped or could not be made. -/
def isBroken (execution : Execution) : Bool := execution.timedOut || execution.exitCode < 0

/-- The runs after the first up to one that differs or is broken: whether one differs, and how long
the others took. -/
def laterRuns (ignored : List String) (first : Execution) : List Execution → Bool × List Int
  | [] => (false, [])
  | run :: rest =>
    if !sameRun ignored first run then (true, [])
    else if isBroken run then (false, [])
    else
      let (unstable, durations) := laterRuns ignored first rest
      (unstable, run.duration :: durations)

/-- What some runs of one command amount to. -/
def settle (ignored : List String) : List Execution → Execution
  | [] => {}
  | first :: rest =>
    if isBroken first then first else
    let (unstable, durations) := laterRuns ignored first rest
    { first with
      unstable := first.unstable || unstable
      duration := durations.foldl min first.duration }

/-- Tries a compiler on a file. -/
def Host.trial (host : Host) (compiler : String) (args : List String) (runs : Nat)
    (ignored : List String) (source : String) : CompileResult :=
  let result := settle ignored
    ((List.range runs).map fun _ => host.execute compiler (args ++ [source]))
  { source, args, result, diagnostics := reports (result.stdout ++ result.stderr) }

end WinZig.Golden
