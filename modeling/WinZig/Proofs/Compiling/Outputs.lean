import WinZig.Proofs.Compiling.Arguments
import WinZig.Proofs.Texts

/-!
# What files print, one after another

A session grows file by file. What a file adds to it depends on the sources before it, which decide the
index under which the file is analysed, and on nothing else that the session holds. So the output of a
session is the outputs of its files, each behind the sources before it.

Without progress lines, the output about one source has two parts on each stream. On the standard
output come listings, then the lines of plain diagnostics; on the error stream come warnings, then
reports on faults and diagnostics. One of the second parts is always empty.
-/

namespace WinZig

namespace Output

/-- Some outputs one after another. -/
def join (outputs : List Output) : Output where
  stdout := String.join (outputs.map stdout)
  stderr := String.join (outputs.map stderr)

/-- A further output is printed behind the others. -/
theorem join_concat (outputs : List Output) (output : Output) :
    join (outputs ++ [output]) = join outputs ++ output := by
  simp only [join, List.map_append, List.map_singleton, String.join_append, String.join_cons,
    String.join_nil, String.append_empty]
  rfl

/-- Nothing more is printed behind an output. -/
theorem append_empty (output : Output) : output ++ ({} : Output) = output := by
  change append output {} = output
  simp [append]

/-- Adding up some outputs prints them one after another. -/
theorem foldl_append (outputs : List Output) : outputs.foldl append {} = join outputs := by
  induction outputs using List.reverseRecOn with
  | nil => rfl
  | append_singleton outputs output inductionHypothesis =>
    rw [List.foldl_append, List.foldl_cons, List.foldl_nil, inductionHypothesis, join_concat]
    rfl

/-- Texts that are all for the standard output. -/
theorem join_out (texts : List String) : join (texts.map out) = out (String.join texts) := by
  induction texts using List.reverseRecOn with
  | nil => rfl
  | append_singleton texts text inductionHypothesis =>
    rw [List.map_append, List.map_singleton, join_concat, inductionHypothesis, String.join_append,
      String.join_cons, String.join_nil, String.append_empty]
    rfl

/-- Texts that are all for the error stream. -/
theorem join_err (texts : List String) : join (texts.map err) = err (String.join texts) := by
  induction texts using List.reverseRecOn with
  | nil => rfl
  | append_singleton texts text inductionHypothesis =>
    rw [List.map_append, List.map_singleton, join_concat, inductionHypothesis, String.join_append,
      String.join_cons, String.join_nil, String.append_empty]
    rfl

/-- A text is on the standard output if its condition holds. -/
theorem stdout_when (condition : Bool) (text : String) :
    (when condition (out text)).stdout = if condition then text else "" := by
  cases condition <;> rfl

/-- An output is what is printed on its two streams. -/
theorem eq_of_streams {output other : Output} (stdout : output.stdout = other.stdout)
    (stderr : output.stderr = other.stderr) : output = other := congrArg₂ mk stdout stderr

/-- The two streams of one output after another. -/
theorem append_eq (first second : Output) :
    first ++ second = ⟨first.stdout ++ second.stdout, first.stderr ++ second.stderr⟩ := rfl

end Output

/-! ## One source -/

/-- The lines on what is wrong with a source, as they are printed in the plain way. -/
def Analysis.lines (analysis : Analysis) : List String :=
  analysis.fault?.toList.map Fault.render ++ analysis.diagnostics.map Diagnostic.render

/-- The report on a diagnostic. -/
def Reporter.diagnostic (reporter : Reporter) (diagnostic : Diagnostic) : String :=
  reporter.error diagnostic.token diagnostic.position diagnostic.message

/-- The reports on what is wrong with a source. -/
def Reporter.errors (reporter : Reporter) (analysis : Analysis) : List String :=
  analysis.fault?.toList.map reporter.fault ++ analysis.diagnostics.map reporter.diagnostic

namespace Session

/-- The listings of a source: its tokens if it could be scanned, its tree and its symbols if it could
be parsed as well. -/
def listings (options : CompileOptions) (source : SourceFile) : Analysis → String
  | .unscanned .. => ""
  | .unparsed tokens _ _ | .crashed tokens _ _ =>
    if options.tokens then Listing.tokens source tokens else ""
  | .checked tokens program _ checker =>
    (if options.tokens then Listing.tokens source tokens else "") ++
      (if options.tree then Listing.tree (some program) else "") ++
      (if options.symbols then Listing.symbols checker.symbols else "")

section Source

variable {options : CompileOptions}

/-- A fault is printed on one of the streams. -/
theorem faultOutput_eq (reporter : Reporter) (fault : Fault) :
    faultOutput options reporter fault =
      ⟨if options.plain then fault.render ++ "\n" else "",
        if options.plain then "" else reporter.fault fault⟩ := by
  unfold faultOutput
  split <;> rfl

/-- Diagnostics are all printed on one of the streams. -/
theorem diagnosticsOutput_eq (reporter : Reporter) (list : List Diagnostic) :
    diagnosticsOutput options reporter list =
      ⟨if options.plain then String.join (list.map fun diagnostic => diagnostic.render ++ "\n") else "",
        if options.plain then "" else String.join (list.map reporter.diagnostic)⟩ := by
  rw [diagnosticsOutput, Output.foldl_append]
  cases printed : options.plain with
  | false =>
    have each : list.map (diagnosticOutput options reporter) =
        (list.map reporter.diagnostic).map Output.err := by
      simp [diagnosticOutput, printed, Reporter.diagnostic, Function.comp_def]
    rw [each, Output.join_err]
    rfl
  | true =>
    have each : list.map (diagnosticOutput options reporter) =
        (list.map fun diagnostic => diagnostic.render ++ "\n").map Output.out := by
      simp [diagnosticOutput, printed, Function.comp_def]
    rw [each, Output.join_out]
    rfl

/-- What is printed on the error stream about a source: warnings, then what is wrong with it. -/
theorem stderr_analysisOutput (reporter : Reporter) (source : SourceFile) (analysis : Analysis) :
    (analysisOutput options reporter source analysis).stderr =
      reporter.notices analysis.notices ++
        if options.plain then "" else String.join (reporter.errors analysis) := by
  have silent (line : String) : (progress options line).stderr = "" := Output.stderr_when ..
  cases analysis with
  | unscanned tokens fault =>
    simp [analysisOutput, silent, Output.stderr_append, faultOutput_eq, Analysis.fault?,
      Analysis.diagnostics, Analysis.notices, Reporter.notices, Reporter.errors]
  | unparsed | crashed =>
    simp [analysisOutput, silent, Output.stderr_append, faultOutput_eq, Analysis.fault?,
      Analysis.diagnostics, Analysis.notices, Output.stderr_when, Reporter.errors, Output.err]
  | checked tokens program notices checker =>
    have last : (if checker.diagnostics.isEmpty then ({} : Output)
        else progress options s!"{source.name}: {checker.diagnostics.length} error(s)").stderr = "" := by
      split
      · rfl
      · exact silent _
    simp only [analysisOutput, Output.stderr_append]
    rw [last]
    simp [silent, diagnosticsOutput_eq, Analysis.fault?, Analysis.diagnostics, Analysis.notices,
      Output.stderr_when, Reporter.errors, Output.err]

/-- Without progress lines, what is printed on the standard output about a source is listings, then
what is wrong with it in the plain way. -/
theorem stdout_analysisOutput (quiet : options.verbose = false) (reporter : Reporter)
    (source : SourceFile) (analysis : Analysis) :
    (analysisOutput options reporter source analysis).stdout =
      listings options source analysis ++
        if options.plain then String.join (analysis.lines.map (· ++ "\n")) else "" := by
  have silent (line : String) : progress options line = {} := by
    rw [progress, quiet]
    rfl
  cases analysis with
  | unscanned tokens fault =>
    simp [analysisOutput, silent, Output.append_eq, faultOutput_eq, listings, Analysis.lines,
      Analysis.fault?, Analysis.diagnostics]
  | unparsed | crashed =>
    simp [analysisOutput, silent, Output.append_eq, faultOutput_eq, listings, Analysis.lines,
      Analysis.fault?, Analysis.diagnostics, Output.stdout_when, Output.err]
  | checked tokens program notices checker =>
    simp [analysisOutput, silent, Output.append_eq, diagnosticsOutput_eq, listings, Analysis.lines,
      Analysis.fault?, Analysis.diagnostics, Output.stdout_when, Output.err, Function.comp_def]

end Source

end Session

/-! ## Files one after another -/

namespace SourceFile

/-- The source at a path, if the file can be read. -/
def at? (tree : FileTree) (path : String) : Option SourceFile :=
  match tree.read path with
  | .error _ => none
  | .ok bytes => some { name := path, content := Text.decode bytes }

/-- The sources at some paths. -/
def atAll (tree : FileTree) (paths : List String) : List SourceFile :=
  paths.filterMap (at? tree)

/-- A source is named by its path. -/
theorem name_of_at? {tree : FileTree} {path : String} {source : SourceFile}
    (found : at? tree path = some source) : source.name = path := by
  unfold at? at found
  split at found
  · exact absurd found (by simp)
  · exact (congrArg name (Option.some.inj found)).symm

/-- The sources at some paths are the sources at their names. -/
theorem at?_of_mem (tree : FileTree) (paths : List String) :
    ∀ source ∈ atAll tree paths, at? tree source.name = some source := by
  intro source member
  obtain ⟨path, -, found⟩ := List.mem_filterMap.mp member
  rw [name_of_at? found, found]

/-- A further path adds its source, if the file can be read. -/
theorem atAll_concat (tree : FileTree) (paths : List String) (path : String) :
    atAll tree (paths ++ [path]) =
      atAll tree paths ++ (at? tree path).toList := by
  unfold atAll
  cases found : at? tree path <;> simp [found]

end SourceFile

namespace Session

section Files

variable (options : CompileOptions) (settings : Settings) (tree : FileTree)

/-- What is printed about the file at a path, behind some sources. -/
def outputBehind (before : List SourceFile) (path : String) : Output :=
  match tree.read path with
  | .error error =>
    .err (Reporter.plainError { files := before, colored := options.colored }
      s!"could not read file '{path}': {error.message}")
  | .ok bytes =>
    analysisOutput options
      { files := before ++ [{ name := path, content := Text.decode bytes }]
        colored := options.colored }
      { name := path, content := Text.decode bytes }
      (Analysis.ofSource settings before.length (Text.decode bytes))

/-- Whether the file at a path cannot be read or has a problem, behind some sources. -/
def failsBehind (before : List SourceFile) (path : String) : Bool :=
  match tree.read path with
  | .error _ => true
  | .ok bytes => !(Analysis.ofSource settings before.length (Text.decode bytes)).isClean

/-- Something about each of some files, behind the sources at the paths before it. -/
def eachBehind {α : Type} (step : List SourceFile → String → α) (paths : List String) : List α :=
  paths.mapIdx fun index path => step (SourceFile.atAll tree (paths.take index)) path

variable {α : Type} (step : List SourceFile → String → α)

/-- A further file stands behind the sources at all other paths. -/
theorem eachBehind_concat (paths : List String) (path : String) :
    eachBehind tree step (paths ++ [path]) =
      eachBehind tree step paths ++ [step (SourceFile.atAll tree paths) path] := by
  unfold eachBehind
  rw [List.mapIdx_concat]
  congr 1
  · apply List.ext_getElem?
    intro index
    rw [List.getElem?_mapIdx, List.getElem?_mapIdx]
    by_cases inside : index < paths.length
    · rw [List.take_append_of_le_length (Nat.le_of_lt inside)]
    · rw [List.getElem?_eq_none (Nat.le_of_not_lt inside)]
      rfl
  · rw [List.take_left]

/-- What does not depend on the sources before it is the same about each file alone. -/
theorem eachBehind_alone {step : List SourceFile → String → α}
    (alone : ∀ before path, step before path = step [] path) (paths : List String) :
    eachBehind tree step paths = paths.map (step []) := by
  induction paths using List.reverseRecOn with
  | nil => rfl
  | append_singleton paths path inductionHypothesis =>
    rw [eachBehind_concat, inductionHypothesis, alone, List.map_append, List.map_singleton]

variable {options settings tree}

/-- One step: a file that can be read becomes a source. -/
theorem compile_sources (session : Session) (path : String) :
    (compile options settings tree session path).sources =
      session.sources ++ (SourceFile.at? tree path).toList := by
  unfold compile SourceFile.at?
  cases tree.read path with
  | error error => exact (List.append_nil _).symm
  | ok bytes => rfl

/-- One step: what is printed depends on the sources before. -/
theorem compile_output (session : Session) (path : String) :
    (compile options settings tree session path).output =
      session.output ++ outputBehind options settings tree session.sources path := by
  unfold compile outputBehind
  cases tree.read path with
  | error error => rfl
  | ok bytes => rfl

/-- One step: whether a file fails depends on the sources before. -/
theorem compile_failed (session : Session) (path : String) :
    (compile options settings tree session path).failed =
      (session.failed || failsBehind settings tree session.sources path) := by
  unfold compile failsBehind
  cases tree.read path with
  | error error => exact (Bool.or_true _).symm
  | ok bytes => rfl

/-- A further file is compiled behind the others. -/
theorem compileAll_concat (paths : List String) (path : String) :
    compileAll options settings tree (paths ++ [path]) =
      compile options settings tree (compileAll options settings tree paths) path := by
  simp [compileAll]

/-- The whole run, by induction on the paths from the end: which sources there are. -/
theorem compileAll_sources (paths : List String) :
    (compileAll options settings tree paths).sources = SourceFile.atAll tree paths := by
  induction paths using List.reverseRecOn with
  | nil => rfl
  | append_singleton paths path inductionHypothesis =>
    rw [compileAll_concat, compile_sources, inductionHypothesis, SourceFile.atAll_concat]

/-- The whole run, by induction on the paths from the end: what is printed. -/
theorem compileAll_output (paths : List String) :
    (compileAll options settings tree paths).output =
      Output.join (eachBehind tree (outputBehind options settings tree) paths) := by
  induction paths using List.reverseRecOn with
  | nil => rfl
  | append_singleton paths path inductionHypothesis =>
    rw [compileAll_concat, compile_output, inductionHypothesis, compileAll_sources,
      eachBehind_concat, Output.join_concat]

/-- The whole run, by induction on the paths from the end: whether it fails. -/
theorem compileAll_failed (paths : List String) :
    (compileAll options settings tree paths).failed =
      (eachBehind tree (failsBehind settings tree) paths).any id := by
  induction paths using List.reverseRecOn with
  | nil => rfl
  | append_singleton paths path inductionHypothesis =>
    rw [compileAll_concat, compile_failed, inductionHypothesis, compileAll_sources,
      eachBehind_concat, List.any_append]
    simp

end Files

end Session

namespace Command

variable {tree : FileTree} {options paths : List String} {flags : FlagSet}
  {settings : Settings} {mode : ColorMode}

/-- Without progress lines, a run with paths behind options prints what compiling the files prints, and
it fails if compiling them does. -/
theorem run_quiet (years : String) (accepted : app.request options = .action flags)
    (nothing : flags.args = [])
    (configured : configure FileSettings.ofText tree flags = .ok (settings, mode))
    (quiet : flags.isOn "verbose" = false)
    (each : ∀ path ∈ paths, app.TakesPath options path) (some : paths ≠ []) :
    let session := Session.compileAll (compileOptions flags mode) settings tree paths
    run years tree (options ++ paths) = ⟨if session.failed then 1 else 0, session.output⟩ := by
  intro session
  rw [run_append accepted nothing configured each some, quiet]
  exact congrArg _ (Output.append_empty session.output)

/-- A run whose settings are refused says why and does nothing else, whatever files it is given. -/
theorem run_refused (years : String) (accepted : app.request options = .action flags)
    (nothing : flags.args = []) {message : String} (refused : configure FileSettings.ofText tree flags = .error message)
    (each : ∀ path ∈ paths, app.TakesPath options path) :
    run years tree (options ++ paths) = usageError false message := by
  have asked := App.request_append accepted nothing each
  have same : configure FileSettings.ofText tree (flags.keep paths) = .error message := refused
  simp only [run, asked, action, same]

/-- Without a settings file and without flags for settings, a run has the settings it starts from. -/
theorem configure_of_unset (nowhere : settingsPath tree flags = none)
    (uncolored : flags.text "color" = "")
    (unset : (flags.visited.map Flag.name).filter isSettingsFlag = []) :
    configure FileSettings.ofText tree flags = .ok ({}, .auto) := by
  simp only [configure, loadedSettings, nowhere, applyFlags, unset, uncolored]
  rfl

end Command

end WinZig
