import WinZig.Files.Tree
import WinZig.Golden.Plan
import WinZig.Golden.Summary
import WinZig.Json.Writer

/-!
# The report of a test run

A report holds the verdict on every file, by file. It is written as JSON next to the golden files if
these have a directory of their own. A report that cannot be written is logged, and the run goes on.
-/

namespace WinZig.Golden

/-- What happened to the files, and what was printed and logged. -/
structure Written where
  tree : FileTree
  /-- Whether the file was written. -/
  saved : Bool
  stdout : String := ""
  log : List String := []

/-- A logged message that something went wrong. -/
def errorLine (message : String) : String := paint .red "[ERROR]" ++ " " ++ message

/-- A logged message that something is amiss. -/
def warningLine (message : String) : String := paint .yellow "[WARN]" ++ " " ++ message

/-- The verdicts with the last one of every file, by file. -/
def byFile (verdicts : List Verdict) : List Verdict :=
  inOrder <| verdicts.foldl
    (fun kept verdict => kept.filter (fun other => other.file != verdict.file) ++ [verdict]) []

/-- A report as JSON. -/
def reportJson (verdicts : List Verdict) : Json :=
  .object ((byFile verdicts).map fun verdict => (verdict.file, verdict.toJson))

/-- The path of the report. -/
def reportPath (directory output : String) : String :=
  if directory = "" then output else Path.join directory output

/-- Makes the directory of the golden files, if they have one. -/
def prepareDirectory (tree : FileTree) (directory : String) : FileTree × List String :=
  if directory = "" then (tree, []) else
  match tree.makeDirectories directory with
  | .ok tree => (tree, [])
  | .error error =>
    (tree, [errorLine s!"Failed to create dir {directory}: {error.message}"])

/-- Writes the report. -/
def writeReport (tree : FileTree) (directory output : String) (verdicts : List Verdict) :
    Written :=
  let (tree, log) := prepareDirectory tree directory
  let path := reportPath directory output
  match tree.write path (reportJson verdicts).write.toUTF8.toList with
  | .ok tree => { tree, saved := true, stdout := s!"Full test report saved to {path}\n", log }
  | .error error =>
    { tree, saved := false
      log := log ++ [errorLine s!"Failed to write JSON report to {path}: {error.message}"] }

/-- Whether something is wrong with one of the files. -/
def hasFailures (verdicts : List Verdict) : Bool :=
  (byFile verdicts).any fun verdict => verdict.status.isFailure

end WinZig.Golden
