import WinZig.Compiler.Analysis
import WinZig.Files.Tree
import WinZig.Listing.Tables
import WinZig.Listing.Tree
import WinZig.Report
import WinZig.Text.Utf8

/-!
# Compiling files

Files are compiled one after another. What a file prints goes to two streams: listings, progress and
plain diagnostics to the standard output, reports to the error stream. A file that cannot be read,
or in which something is wrong, is reported, and the next one is compiled all the same.
-/

namespace WinZig

/-- What is printed on the two streams. -/
structure Output where
  stdout : String := ""
  stderr : String := ""
deriving DecidableEq, Repr

namespace Output

/-- One output after another. -/
def append (first second : Output) : Output :=
  ⟨first.stdout ++ second.stdout, first.stderr ++ second.stderr⟩

instance : Append Output := ⟨append⟩

/-- Text on the standard output. -/
def out (text : String) : Output := { stdout := text }

/-- Text on the error stream. -/
def err (text : String) : Output := { stderr := text }

/-- An output if a condition holds. -/
def when (condition : Bool) (output : Output) : Output := if condition then output else {}

end Output

/-- What to print beside reports. -/
structure CompileOptions where
  /-- List the tokens. -/
  tokens : Bool := false
  /-- List the tree. -/
  tree : Bool := false
  /-- List the symbols. -/
  symbols : Bool := false
  /-- Print diagnostics on the standard output, without their file and their source line. -/
  plain : Bool := false
  /-- Print the stages. -/
  verbose : Bool := false
  /-- Colour reports. -/
  colored : Bool := false
deriving Repr

/-- The files compiled so far and what came of them. -/
structure Session where
  /-- The files that could be read. -/
  sources : List SourceFile := []
  output : Output := {}
  /-- The number of faults and diagnostics. -/
  problems : Nat := 0
  /-- Whether some file could not be read or has a problem. -/
  failed : Bool := false

namespace Session

/-- A line on the standard output, if stages are to be printed. -/
def progress (options : CompileOptions) (line : String) : Output :=
  .when options.verbose (.out (line ++ "\n"))

/-- How a fault is reported. -/
def faultOutput (options : CompileOptions) (reporter : Reporter) (fault : Fault) : Output :=
  if options.plain then .out (fault.render ++ "\n") else .err (reporter.fault fault)

/-- How a diagnostic is reported. -/
def diagnosticOutput (options : CompileOptions) (reporter : Reporter) (diagnostic : Diagnostic) :
    Output :=
  if options.plain then .out (diagnostic.render ++ "\n")
  else .err (reporter.error diagnostic.token diagnostic.position diagnostic.message)

/-- How diagnostics are reported. -/
def diagnosticsOutput (options : CompileOptions) (reporter : Reporter) (list : List Diagnostic) :
    Output :=
  (list.map (diagnosticOutput options reporter)).foldl Output.append {}

/-- What the analysis of a source prints. -/
def analysisOutput (options : CompileOptions) (reporter : Reporter)
    (source : SourceFile) (analysis : Analysis) : Output :=
  let scanning := progress options s!"Tokenizing '{source.name}'..."
  let listed (tokens : List Token) : Output :=
    .when options.tokens (.out (Listing.tokens source tokens)) ++
      progress options s!"Parsing {tokens.length} tokens into AST..."
  let warnings := .err (reporter.notices analysis.notices)
  match analysis with
  | .unscanned _ fault => scanning ++ faultOutput options reporter fault
  | .unparsed tokens fault _ =>
    scanning ++ listed tokens ++ warnings ++ faultOutput options reporter fault
  | .crashed tokens _ _ => scanning ++ listed tokens ++ warnings
  | .checked tokens program _ checker =>
    scanning ++ listed tokens ++ progress options "Type checking..." ++ warnings ++
      .when options.tree (.out (Listing.tree (some program))) ++
      .when options.symbols (.out (Listing.symbols checker.symbols)) ++
      diagnosticsOutput options reporter checker.diagnostics ++
      (if checker.diagnostics.isEmpty then {}
        else progress options s!"{source.name}: {checker.diagnostics.length} error(s)")

/-- The number of faults and diagnostics of a source. -/
def problemCount (analysis : Analysis) : Nat :=
  if analysis.fault?.isSome then 1 else analysis.diagnostics.length

/-- Compiles the file at a path. -/
def compile (options : CompileOptions) (settings : Settings) (tree : FileTree) (session : Session)
    (path : String) : Session :=
  match tree.read path with
  | .error error =>
    let reporter : Reporter := { files := session.sources, colored := options.colored }
    let text := reporter.plainError s!"could not read file '{path}': {error.message}"
    { session with output := session.output ++ .err text, failed := true }
  | .ok bytes =>
    let source : SourceFile := { name := path, content := Text.decode bytes }
    let sources := session.sources ++ [source]
    let reporter : Reporter := { files := sources, colored := options.colored }
    let analysis := Analysis.ofSource settings session.sources.length source.content
    { sources
      output := session.output ++ analysisOutput options reporter source analysis
      problems := session.problems + problemCount analysis
      failed := session.failed || !analysis.isClean }

/-- Compiles the files at some paths, one after another. -/
def compileAll (options : CompileOptions) (settings : Settings) (tree : FileTree)
    (paths : List String) : Session :=
  paths.foldl (compile options settings tree) {}

end Session

end WinZig
