import WinZig.Digest
import WinZig.Files.Glob
import WinZig.Golden.Compare
import WinZig.Golden.Plan
import WinZig.Golden.Recorded
import WinZig.Golden.Report
import WinZig.Golden.Trial

/-!
# Test suites

A suite tests every file that matches some patterns. A file is compared with its golden result, else
with a reference compiler, else with what the last report holds.
-/

namespace WinZig.Golden

/-- What a suite is told to do. -/
structure SuiteOptions where
  /-- The path of a reference compiler; empty for none. -/
  refCompiler : String := ""
  refArgs : String := ""
  compiler : String := ""
  args : String := ""
  testFiles : String := ""
  skipFiles : String := ""
  output : String := ""
  runs : Int := 0
  verbose : Bool := false
  /-- The directory of golden files; empty if each stands next to its source. -/
  directory : String := ""
  ignoreLines : String := ""
deriving Repr

/-- The path of the golden result of a source. -/
def goldenPath (directory source : String) : String :=
  let name := s!".{Path.base source}.json"
  Path.join (if directory = "" then Path.directory source else directory) name

/-- The digest of a file. -/
def fileDigest (tree : FileTree) (path : String) : Except FileError String :=
  match tree.read path with
  | .ok content => .ok (Digest.hex (Digest.ofBytes content))
  | .error error => .error error

/-- A golden result, or why there is none. -/
def loadGolden (tree : FileTree) (path : String) : Except String CompileResult :=
  match tree.read path with
  | .error error => .error s!"Could not read golden file {path}: {error.message}"
  | .ok content =>
    match CompileResult.ofText? (Text.decode content) with
    | some result => .ok result
    | none => .error s!"Could not parse golden file {path}"

namespace SuiteOptions

/-- Tries the compiler under test on a file. -/
def tryTarget (options : SuiteOptions) (host : Host) (file : String) : CompileResult :=
  host.trial options.compiler (Text.fields options.args) options.runs.toNat
    (ignoredTexts options.ignoreLines) file

/-- Tries the reference compiler on a file. -/
def tryReference (options : SuiteOptions) (host : Host) (file : String) : CompileResult :=
  host.trial options.refCompiler (Text.fields options.refArgs) options.runs.toNat
    (ignoredTexts options.ignoreLines) file

/-- Whether there is a reference compiler. -/
def hasReference (options : SuiteOptions) (host : Host) : Bool :=
  options.refCompiler != "" && host.hasCommand options.refCompiler

/-- The last result of a file in a report. -/
def previousResult (previous : List (String × Verdict)) (file : String) : Option CompileResult :=
  (List.lookup file previous).bind Verdict.target

/-- What a file is compared with. -/
inductive Yardstick where
  | golden (path : String)
  | compiler
  | previous (result : CompileResult)
  | nothing

/-- What a file is to be compared with. -/
def yardstick (options : SuiteOptions) (host : Host) (previous : List (String × Verdict))
    (file : String) : Yardstick :=
  let golden := goldenPath options.directory file
  if host.tree.leadsSomewhere golden then .golden golden
  else if options.hasReference host then .compiler
  else match previousResult previous file with
    | some result => .previous result
    | none => .nothing

/-- The verdict on a file with something to compare it with. -/
def judge (options : SuiteOptions) (host : Host) (file : String) : Yardstick → Verdict
  | .golden path =>
    match loadGolden host.tree path with
    | .error message => { file, status := .error, message }
    | .ok reference =>
      compare file (ignoredTexts options.ignoreLines) reference (options.tryTarget host file)
  | .compiler =>
    compare file (ignoredTexts options.ignoreLines) (options.tryReference host file)
      (options.tryTarget host file)
  | .previous reference =>
    let verdict :=
      compare file (ignoredTexts options.ignoreLines) reference (options.tryTarget host file)
    { verdict with message := verdict.message ++ " (against previous run)" }
  | .nothing =>
    { file, status := .skip
      message := "No golden file, reference compiler or previous result to compare against" }

/-- What is logged about a file that is tested. -/
def remarks (options : SuiteOptions) (file : String) : Yardstick → List String
  | .previous _ =>
    if options.verbose then [s!"[{file}] Using cached result from previous test run."] else []
  | .golden _ | .compiler | .nothing => []

end SuiteOptions

/-- The end of a suite. -/
structure SuiteOutcome where
  failed : Bool
  stdout : String := ""
  log : List String := []
  /-- The verdicts of the report; none if no report could be written. -/
  report : Option (List Verdict) := none
  tree : FileTree

/-- The verdicts of the last report, and what is logged about it. -/
def previousReport (tree : FileTree) (path : String) : List (String × Verdict) × List String :=
  match tree.read path with
  | .error _ => ([], [])
  | .ok content =>
    match reportOfText? (Text.decode content) with
    | some verdicts => (verdicts, [])
    | none =>
      ([], [warningLine
        s!"Could not parse previous results file {path}. Cache will not be used."])

/-- Runs a suite; malformed patterns are an error. -/
def SuiteOptions.run (options : SuiteOptions) (host : Host) : Except String SuiteOutcome := do
  let missing :=
    if options.refCompiler != "" && !options.hasReference host then
      [warningLine (s!"Reference compiler '{options.refCompiler}' not found. " ++
        "Will rely on golden files.")]
    else []
  let files ← Files.expand host.tree options.testFiles
  if files.isEmpty then
    return { failed := false, tree := host.tree
             log := missing ++ ["No test files found matching the pattern(s)."] }
  let path := reportPath options.directory options.output
  let (previous, unparsed) := previousReport host.tree path
  let skipList := (Text.fields options.skipFiles).map (Path.absolute host.tree.workingPath)
  let sieve : Sieve := { skipped := skipList.contains, digest := fileDigest host.tree }
  let yardstick := options.yardstick host previous
  let results := verdicts sieve (fun file => options.judge host file (yardstick file)) files
  let remarks := (tested sieve files).flatMap fun file => options.remarks file (yardstick file)
  let contest := Contest.ofPaths options.compiler options.refCompiler options.verbose
  let written := writeReport host.tree options.directory options.output results
  return {
    failed := hasFailures results
    stdout := summary contest results ++ written.stdout
    log := missing ++ unparsed ++ remarks ++ written.log
    report := if written.saved then some (byFile results) else none
    tree := written.tree }

/-- Records the golden result of a source: the result, the files after it, and what is logged. -/
def SuiteOptions.record (options : SuiteOptions) (host : Host) (source : String) :
    Except String (CompileResult × FileTree × List String) := do
  let result := options.tryTarget host source
  let path := goldenPath options.directory source
  let tree ←
    if options.directory = "" then .ok host.tree
    else match host.tree.makeDirectories options.directory with
      | .ok tree => .ok tree
      | .error error =>
        .error s!"Failed to create directory {options.directory}: {error.message}"
  match tree.write path result.toJson.write.toUTF8.toList with
  | .error error => .error s!"Failed to write golden file {path}: {error.message}"
  | .ok tree =>
    return (result, tree, [
      s!"Generating golden file for {source}...",
      paint .green "[SUCCESS]" ++ s!" Golden file created at {path} " ++
        s!"(exit {result.result.exitCode}, {result.diagnostics.length} diagnostics)"])

end WinZig.Golden
