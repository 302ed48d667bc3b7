import Std.Time
import WinZig.Compiler.Command

/-!
# The command line

Everything the command does is decided by `WinZig.Command.run`. Here the files it may look at are
read, what it prints is printed, and its status is returned.
-/

namespace WinZig

/-- The paths the command looks at: the settings file and the files to compile. -/
def Command.paths (arguments : List String) : List String :=
  match Command.app.request arguments with
  | .action flags =>
    let named := flags.text "config"
    (if named = "" then Settings.defaultFile else named) :: flags.args
  | _ => []

/-- What stands at a path, if anything can be read there. -/
def nodeAt? (path : String) : IO (Option FileNode) := do
  try
    if ← (← IO.FS.realPath path).isDir then return some .directory
    return some (.file (← IO.FS.readBinFile path).toList)
  catch _ => return none

/-- A tree with what stands at some names from the root and on the way to them. -/
def withNodes (tree : FileTree) (names : List String) : IO FileTree := do
  let mut tree := tree
  for length in List.range (names.length + 1) do
    let place := names.take length
    if let some node ← nodeAt? ("/" ++ String.intercalate "/" place) then
      tree := tree.put place node
  return tree

/-- The names from the root to a path that starts there. -/
def namesFromRoot (path : String) : List String := (Path.names path).filter (· != "")

/-- The files at some paths. -/
def snapshot (paths : List String) : IO FileTree := do
  let working := toString (← IO.currentDir)
  let mut tree : FileTree := { entries := [], working := namesFromRoot working }
  for path in paths do
    tree ← withNodes tree (namesFromRoot (Path.absolute working path))
  return tree

/-- The current year. -/
def currentYear : IO String := do
  let today ← Std.Time.PlainDate.now
  return toString today.year.toInt

end WinZig

/-- Runs the command on its arguments. -/
def main (arguments : List String) : IO UInt32 := do
  let years := WinZig.App.copyrightYears WinZig.Command.since (← WinZig.currentYear)
  let tree ← WinZig.snapshot (WinZig.Command.paths arguments)
  let outcome := WinZig.Command.run years tree arguments
  (← IO.getStdout).putStr outcome.output.stdout
  (← IO.getStderr).putStr outcome.output.stderr
  return outcome.exit.toUInt32
