import WinZig.Proofs.Compiling.Attribution
import WinZig.Proofs.Compiling.Outputs
import WinZig.Proofs.Parsing.Warnings

/-!
# Warnings are observers

Parsing and checking look at the warnings that are on wherever they have something to remark on, and
keep the remark or drop it. Nothing else depends on that. Two runs whose settings differ in warnings
only find the same, end with the same status and print the same on the standard output.

Both are compared with the run in which all warnings are on. What is found with fewer of them on is
what is found there, without the notices that belong to the others. So the texts that could be printed
on the error stream are known before any warning is switched off: reports on notices, each belonging to
a warning, and the texts that belong to none, such as reports on faults. What is printed is this list
without the reports whose warning is off, in the same order.
-/

namespace WinZig

/-- A text for the error stream, and the warning it is a report of if it is one. -/
structure Printout where
  warning? : Option Warning
  text : String
deriving DecidableEq, Repr

namespace Printout

/-- Whether a text is printed if some warnings are shown. Texts that belong to no warning always are. -/
def isShown (shown : Warning → Bool) (printout : Printout) : Bool := printout.warning?.all shown

/-- The texts that are printed if some warnings are shown, one after another. -/
def printed (shown : Warning → Bool) (printouts : List Printout) : String :=
  String.join ((printouts.filter (isShown shown)).map text)

/-- What is printed of two lists, one after another. -/
theorem printed_append (shown : Warning → Bool) (first second : List Printout) :
    printed shown (first ++ second) = printed shown first ++ printed shown second := by
  simp [printed]

/-- Texts that belong to no warning are all printed. -/
theorem printed_none (shown : Warning → Bool) (texts : List String) :
    printed shown (texts.map (mk none)) = String.join texts := by
  have each : ∀ printout ∈ texts.map (mk none), isShown shown printout = true :=
    List.forall_mem_map.mpr fun _ _ => rfl
  rw [printed, List.filter_eq_self.mpr each, List.map_map]
  exact congrArg String.join (List.map_id texts)

/-- A text that belongs to no warning is printed. -/
theorem printed_text (shown : Warning → Bool) (text : String) : printed shown [⟨none, text⟩] = text :=
  (printed_none shown [text]).trans (by simp)

/-- With all warnings on, every text is printed. -/
theorem printed_all {shown : Warning → Bool} (all : ∀ warning, shown warning = true)
    (printouts : List Printout) : printed shown printouts = String.join (printouts.map text) := by
  have each : ∀ printout ∈ printouts, isShown shown printout = true := by
    rintro ⟨warning?, text⟩ -
    cases warning? with
    | none => rfl
    | some warning => exact all warning
  rw [printed, List.filter_eq_self.mpr each]

end Printout

open Printout

/-! ## Sources with fewer warnings on -/

/-- The same settings with all warnings on. -/
def Settings.loud (settings : Settings) : Settings := { settings with warning := fun _ => true }

/-- Settings that agree in all but the warnings are the same with all warnings on. -/
theorem Settings.loud_eq {settings settings' : Settings}
    (features : settings'.feature = settings.feature) (color : settings'.color = settings.color) :
    settings'.loud = settings.loud := by
  rw [loud, loud, features, color]

namespace Analysis

/-- What is found in a source with only some warnings on, of those that were. -/
def restricted (only : Warning → Bool) : Analysis → Analysis
  | unscanned tokens fault => unscanned tokens fault
  | unparsed tokens fault notices => unparsed tokens fault (Notice.restricted only notices)
  | crashed tokens literal notices => crashed tokens literal (Notice.restricted only notices)
  | checked tokens program notices checker =>
    checked tokens program (Notice.restricted only notices) (Typing.resumed {} only checker)

/-- What is found in a stream with only some warnings on, by what it was read as with all of them. -/
theorem ofReply_restricted (only : Warning → Bool) (tokens : List Token) (reply : Reply Program) :
    ofReply only tokens (reply.restricted only) =
      (ofReply (fun _ => true) tokens reply).restricted only := by
  cases reply with
  | failed | crashed => rfl
  | ok program cursor =>
    simp only [Reply.restricted, ofReply, restricted, Typing.check_eq_restricted { shown := only }]
    rfl

/-- What is found in a source is what is found with all warnings on, without the notices that belong to
the warnings that are off. -/
theorem ofSource_eq_restricted (settings : Settings) (index : Int) (content : List Char) :
    ofSource settings index content =
      (ofSource settings.loud index content).restricted settings.warning := by
  let source : SourceFile := ⟨"", content⟩
  have features : settings.loud.feature = settings.feature := rfl
  change ofSource settings index source.content =
    (ofSource settings.loud index source.content).restricted settings.warning
  cases found : (Scanner.ofSource index (settings.feature .nestedComments) source).fault? with
  | some fault =>
    rw [ofSource_of_fault found, ofSource_of_fault (features ▸ found), restricted, features]
  | none =>
    rw [ofSource_of_sound found, ofSource_of_sound (features ▸ found), features,
      Program.ofTokens_eq_restricted settings]
    exact ofReply_restricted settings.warning _ _

section Restricted

variable (only : Warning → Bool) (analysis : Analysis)

/-- The notices that are left belong to warnings that are on. -/
theorem notices_restricted :
    (analysis.restricted only).notices = Notice.restricted only analysis.notices := by
  cases analysis with
  | unscanned | unparsed | crashed => rfl
  | checked tokens program notices checker => exact (List.filter_append ..).symm

/-- The fault does not depend on the warnings. -/
theorem fault?_restricted : (analysis.restricted only).fault? = analysis.fault? := by
  cases analysis <;> rfl

/-- The diagnostics do not depend on the warnings. -/
theorem diagnostics_restricted : (analysis.restricted only).diagnostics = analysis.diagnostics := by
  cases analysis <;> rfl

/-- Whether something is wrong does not depend on the warnings. -/
theorem isClean_restricted : (analysis.restricted only).isClean = analysis.isClean := by
  cases analysis <;> rfl

/-- How much is wrong does not depend on the warnings. -/
theorem problemCount_restricted :
    Session.problemCount (analysis.restricted only) = Session.problemCount analysis := by
  rw [Session.problemCount, fault?_restricted, diagnostics_restricted, Session.problemCount]

/-- What is printed on the standard output does not depend on the warnings. -/
theorem stdout_restricted (options : CompileOptions) (reporter : Reporter) (source : SourceFile) :
    (Session.analysisOutput options reporter source (analysis.restricted only)).stdout =
      (Session.analysisOutput options reporter source analysis).stdout := by
  cases analysis with
  | unscanned => rfl
  | unparsed | crashed =>
    simp only [restricted, Session.analysisOutput, Output.append_eq, Output.err]
  | checked =>
    simp only [restricted, Session.analysisOutput, Output.append_eq, Output.err]
    rfl

end Restricted

/-- What two analyses of a source agree in: how far they came, the tokens, the fault, the program with
its tags, and what checking knows and complains about. Only the notices may differ. -/
inductive Agrees : Analysis → Analysis → Prop
  | unscanned {tokens fault} : Agrees (.unscanned tokens fault) (.unscanned tokens fault)
  | unparsed {tokens fault notices notices'} :
      Agrees (.unparsed tokens fault notices) (.unparsed tokens fault notices')
  | crashed {tokens literal notices notices'} :
      Agrees (.crashed tokens literal notices) (.crashed tokens literal notices')
  | checked {tokens program notices notices' checker checker'}
      (diagnostics : checker'.diagnostics = checker.diagnostics) (scope : checker'.scope = checker.scope)
      (symbols : checker'.symbols = checker.symbols) :
      Agrees (.checked tokens program notices checker) (.checked tokens program notices' checker')

/-- Whichever warnings are on, the analyses agree. -/
theorem agrees_restricted (only only' : Warning → Bool) (analysis : Analysis) :
    (analysis.restricted only).Agrees (analysis.restricted only') := by
  cases analysis with
  | unscanned => exact .unscanned
  | unparsed => exact .unparsed
  | crashed => exact .crashed
  | checked => exact .checked rfl rfl rfl

end Analysis

/-! ## Texts -/

/-- The texts on what is found in a source: reports on notices, and reports on what is wrong unless
that is printed in the plain way. -/
def Reporter.printouts (reporter : Reporter) (plain : Bool) (analysis : Analysis) : List Printout :=
  analysis.notices.map (fun notice => ⟨some notice.remark.warning, reporter.notice notice⟩) ++
    if plain then [] else (reporter.errors analysis).map (Printout.mk none)

/-- The reports that are printed are those on the notices that are left. -/
theorem Reporter.printed_notices (reporter : Reporter) (shown : Warning → Bool)
    (notices : List Notice) :
    printed shown (notices.map fun notice => ⟨some notice.remark.warning, reporter.notice notice⟩) =
      reporter.notices (Notice.restricted shown notices) := by
  rw [printed, List.filter_map, List.map_map]
  rfl

namespace Session

/-- The texts about the file at a path, behind some sources, with all warnings on. -/
def printoutsBehind (options : CompileOptions) (settings : Settings) (tree : FileTree)
    (before : List SourceFile) (path : String) : List Printout :=
  match tree.read path with
  | .error error =>
    [⟨none, Reporter.plainError { colored := options.colored }
      s!"could not read file '{path}': {error.message}"⟩]
  | .ok bytes =>
    Reporter.printouts
      { files := before ++ [{ name := path, content := Text.decode bytes }]
        colored := options.colored }
      options.plain (Analysis.ofSource settings.loud before.length (Text.decode bytes))

/-- The texts about some files, with all warnings on. -/
def printouts (options : CompileOptions) (settings : Settings) (tree : FileTree)
    (paths : List String) : List Printout :=
  (eachBehind tree (printoutsBehind options settings tree) paths).flatten

section Texts

variable {options : CompileOptions} {settings settings' : Settings} {tree tree' : FileTree}

/-- What is printed on the error stream about a file. -/
theorem stderr_outputBehind (before : List SourceFile) (path : String) :
    (outputBehind options settings tree before path).stderr =
      printed settings.warning (printoutsBehind options settings tree before path) := by
  unfold outputBehind printoutsBehind
  cases tree.read path with
  | error error => exact (printed_text ..).symm
  | ok bytes =>
    dsimp only
    rw [stderr_analysisOutput, Analysis.ofSource_eq_restricted, Analysis.notices_restricted,
      Reporter.errors, Analysis.fault?_restricted, Analysis.diagnostics_restricted,
      Reporter.printouts, printed_append, Reporter.printed_notices]
    cases options.plain with
    | true => rfl
    | false => exact congrArg _ (printed_none ..).symm

/-- A further file adds its texts. -/
theorem printouts_concat (settings : Settings) (paths : List String) (path : String) :
    printouts options settings tree (paths ++ [path]) =
      printouts options settings tree paths ++
        printoutsBehind options settings tree (SourceFile.atAll tree paths) path := by
  rw [printouts, eachBehind_concat, List.flatten_append, List.flatten_cons, List.flatten_nil,
    List.append_nil]
  rfl

/-- The whole run, by induction on the paths from the end: what is printed on the error stream. -/
theorem stderr_compileAll (paths : List String) :
    (compileAll options settings tree paths).output.stderr =
      printed settings.warning (printouts options settings tree paths) := by
  rw [compileAll_output]
  induction paths using List.reverseRecOn with
  | nil => rfl
  | append_singleton paths path inductionHypothesis =>
    rw [eachBehind_concat, Output.join_concat, Output.stderr_append, inductionHypothesis,
      stderr_outputBehind, printouts_concat, printed_append]

/-- The texts about some files depend on these files alone, and on what the settings are but for the
warnings. -/
theorem printouts_congr (loud : settings'.loud = settings.loud) {paths : List String}
    (files : ∀ path ∈ paths, tree'.read path = tree.read path) :
    printouts options settings' tree' paths = printouts options settings tree paths := by
  induction paths using List.reverseRecOn with
  | nil => simp only [printouts, eachBehind, List.mapIdx_nil]
  | append_singleton paths path inductionHypothesis =>
    rw [List.forall_mem_append, List.forall_mem_singleton] at files
    have sources : SourceFile.atAll tree' paths = SourceFile.atAll tree paths := by
      apply List.filterMap_congr
      intro other member
      rw [SourceFile.at?, SourceFile.at?, files.1 other member]
    rw [printouts_concat, printouts_concat, inductionHypothesis files.1, sources, printoutsBehind,
      printoutsBehind, files.2, loud]

end Texts

/-! ## Two runs -/

/-- Sessions that differ in what has been printed on the error stream only. -/
structure Agrees (one other : Session) : Prop where
  sources : other.sources = one.sources
  stdout : other.output.stdout = one.output.stdout
  problems : other.problems = one.problems
  failed : other.failed = one.failed

section Agree

variable {options : CompileOptions} {settings settings' : Settings} {tree tree' : FileTree}
  (loud : settings'.loud = settings.loud)

include loud

/-- One step. -/
theorem Agrees.compile {one other : Session} (agree : one.Agrees other) {path : String}
    (file : tree'.read path = tree.read path) :
    (compile options settings tree one path).Agrees (compile options settings' tree' other path) := by
  unfold Session.compile
  rw [file]
  cases tree.read path with
  | error error =>
    constructor
    case sources => exact agree.sources
    case stdout => exact congrArg (· ++ "") agree.stdout
    case problems => exact agree.problems
    case failed => rfl
  | ok bytes =>
    dsimp only
    rw [agree.sources, Analysis.ofSource_eq_restricted settings, Analysis.ofSource_eq_restricted settings',
      loud]
    constructor
    case sources => rfl
    case stdout =>
      rw [Output.append_eq, Output.append_eq, Analysis.stdout_restricted, Analysis.stdout_restricted,
        agree.stdout]
    case problems =>
      rw [Analysis.problemCount_restricted, Analysis.problemCount_restricted, agree.problems]
    case failed =>
      rw [Analysis.isClean_restricted, Analysis.isClean_restricted, agree.failed]

/-- The whole run, by induction on the paths. -/
theorem Agrees.foldl {one other : Session} (agree : one.Agrees other) {paths : List String}
    (files : ∀ path ∈ paths, tree'.read path = tree.read path) :
    (paths.foldl (Session.compile options settings tree) one).Agrees
      (paths.foldl (Session.compile options settings' tree') other) := by
  induction paths generalizing one other with
  | nil => exact agree
  | cons path paths inductionHypothesis =>
    rw [List.forall_mem_cons] at files
    rw [List.foldl_cons, List.foldl_cons]
    exact inductionHypothesis (agree.compile loud files.1) files.2

end Agree

end Session

namespace Command

variable {tree tree' : FileTree} {flags flags' : FlagSet} {settings settings' : Settings}
  {mode mode' : ColorMode}

/-- The colour mode of a run is named by its settings. -/
theorem mode_of_configure (configured : configure FileSettings.ofText tree flags = .ok (settings, mode)) :
    ColorMode.ofName? settings.color = some mode := by
  unfold configure at configured
  split at configured
  · exact absurd configured (by simp)
  · dsimp only at configured
    split at configured
    · next named =>
      obtain ⟨rfl, rfl⟩ := Prod.mk.inj (Except.ok.inj configured)
      exact named
    · exact absurd configured (by simp)

/-- The texts for the error stream of a run on some files, with all warnings on. -/
def printouts (options : CompileOptions) (settings : Settings) (tree : FileTree)
    (paths : List String) : List Printout :=
  if paths.isEmpty then
    [⟨none, Reporter.plainError { colored := options.colored } "no input files specified."⟩]
  else Session.printouts options settings tree paths

/-- What compiling the files of a command line prints on the error stream. -/
theorem action_stderr (configured : configure FileSettings.ofText tree flags = .ok (settings, mode)) :
    (action tree flags).output.stderr = printed settings.warning
      (printouts (compileOptions flags mode) settings tree flags.args) := by
  simp only [action, configured, printouts]
  split
  · exact (printed_text ..).symm
  · rw [Output.stderr_append, Output.stderr_when, String.append_empty, Session.stderr_compileAll]

/-- What compiling the files of a command line prints on the standard output, and how it ends. -/
theorem action_agrees (configured : configure FileSettings.ofText tree flags = .ok (settings, mode))
    (configured' : configure FileSettings.ofText tree' flags' = .ok (settings', mode))
    (loud : settings'.loud = settings.loud) (args : flags'.args = flags.args)
    (printing : compileOptions flags' mode = compileOptions flags mode)
    (files : ∀ path ∈ flags.args, tree'.read path = tree.read path) :
    (action tree' flags').exit = (action tree flags).exit ∧
      (action tree' flags').output.stdout = (action tree flags).output.stdout := by
  have start : Session.Agrees {} {} := ⟨rfl, rfl, rfl, rfl⟩
  have agrees : (Session.compileAll (compileOptions flags mode) settings tree flags.args).Agrees
      (Session.compileAll (compileOptions flags mode) settings' tree' flags.args) :=
    start.foldl loud files
  simp only [action, configured, configured', args, printing]
  split
  · exact ⟨rfl, rfl⟩
  · simp only [Output.append_eq, agrees.stdout, agrees.failed, agrees.problems, and_self]

/-- Warnings are only observers. Take two settings that agree in the features and the colour.

Any stream of tokens is read alike under both, and any source is analysed alike: the tokens are the
same, and so are the fault, the program with its tags, the symbols and the complaints. The notices are
those of the analysis with all warnings on, in the same order, whose warning is on.

Take two runs with these settings, on the same files and with the same flags for printing. They end with
the same status and print the same on the standard output. On the error stream, either run prints the
texts that its warnings let through from one list of texts; a run with all warnings on prints the whole
list.

Proof: the parsers are followed side by side with a run in which all warnings are on, and so is the
checker; the cursors differ in the notices only. A session then depends on warnings in what it has
printed on the error stream only, file by file. -/
theorem warnings_observe (years : String) {arguments arguments' : List String}
    (accepted : app.request arguments = .action flags)
    (accepted' : app.request arguments' = .action flags')
    (configured : configure FileSettings.ofText tree flags = .ok (settings, mode))
    (configured' : configure FileSettings.ofText tree' flags' = .ok (settings', mode'))
    (features : settings'.feature = settings.feature) (color : settings'.color = settings.color)
    (args : flags'.args = flags.args) (printing : compileOptions flags' = compileOptions flags)
    (files : ∀ path ∈ flags.args, tree'.read path = tree.read path) :
    let texts := printouts (compileOptions flags mode) settings tree flags.args
    (∀ tokens, let full := Program.ofTokens settings.loud tokens
      Program.ofTokens settings tokens = full.restricted settings.warning ∧
        Program.ofTokens settings' tokens = full.restricted settings'.warning) ∧
      (∀ index content, let full := Analysis.ofSource settings.loud index content
        (Analysis.ofSource settings index content).Agrees (Analysis.ofSource settings' index content) ∧
          (Analysis.ofSource settings index content).notices =
            full.notices.filter (fun notice => settings.warning notice.remark.warning) ∧
          (Analysis.ofSource settings' index content).notices =
            full.notices.filter fun notice => settings'.warning notice.remark.warning) ∧
      (run years tree' arguments').exit = (run years tree arguments).exit ∧
      (run years tree' arguments').output.stdout = (run years tree arguments).output.stdout ∧
      (run years tree arguments).output.stderr = printed settings.warning texts ∧
      (run years tree' arguments').output.stderr = printed settings'.warning texts ∧
      ((∀ warning, settings'.warning warning = true) →
        (run years tree' arguments').output.stderr = String.join (texts.map text)) := by
  have loud : settings'.loud = settings.loud := Settings.loud_eq features color
  have colored : mode' = mode := by
    have named := mode_of_configure configured'
    rw [color, mode_of_configure configured] at named
    exact (Option.some.inj named).symm
  subst colored
  have ran : run years tree arguments = action tree flags := by simp only [run, accepted]
  have ran' : run years tree' arguments' = action tree' flags' := by simp only [run, accepted']
  have texts : printouts (compileOptions flags' mode') settings' tree' flags'.args =
      printouts (compileOptions flags mode') settings tree flags.args := by
    rw [printing, args]
    unfold printouts
    rw [Session.printouts_congr loud files]
  obtain ⟨exit, stdout⟩ := action_agrees configured configured' loud args
    (congrFun printing mode') files
  have stderr := action_stderr configured'
  rw [texts] at stderr
  rw [ran, ran']
  refine ⟨fun tokens => ⟨Program.ofTokens_eq_restricted settings tokens, ?_⟩, fun index content => ?_,
    exit, stdout, action_stderr configured, stderr, ?_⟩
  · rw [← loud]
    exact Program.ofTokens_eq_restricted settings' tokens
  · rw [Analysis.ofSource_eq_restricted settings, Analysis.ofSource_eq_restricted settings', loud]
    exact ⟨Analysis.agrees_restricted _ _ _, Analysis.notices_restricted _ _,
      Analysis.notices_restricted _ _⟩
  · intro all
    rw [stderr, printed_all all]

/-- A file with a parameter that hides a variable of the program. -/
def hidingFile : FileTree where
  entries := [(["a.wz"], .file ("program p: var x: integer; function f(x: integer): integer; " ++
    "begin return(x) end f; begin output(f(x)) end p.").toUTF8.toList)]

/-- The report on the hidden variable. -/
def hidingReport : String :=
  "a.wz:1:39: warning: 'x' shadows a global variable [-Wshadow]\n" ++
    "  program p: var x: integer; function f(x: integer): integer; " ++
    "begin return(x) end f; begin output(f(x)) end p.\n" ++
    "                                        ^\n"

/-- Without options the hidden variable is not warned about, with the warning switched on it is. -/
theorem warnings_observe_shadow :
    (run "2025" hidingFile ["-Wshadow", "a.wz"]).exit = (run "2025" hidingFile ["a.wz"]).exit ∧
      (run "2025" hidingFile ["a.wz"]).output.stderr = "" ∧
      (run "2025" hidingFile ["-Wshadow", "a.wz"]).output.stderr = hidingReport := by
  let flags := (app.flags.parse ["a.wz"]).1
  let flags' := (app.flags.parse ["-Wshadow", "a.wz"]).1
  have configured : configure FileSettings.ofText hidingFile flags = .ok ({}, .auto) :=
    configure_of_unset (by decide) (by decide) (by decide +kernel)
  have configured' : configure FileSettings.ofText hidingFile flags' =
      .ok (applyFlags {} flags', .auto) := by
    have nowhere : settingsPath hidingFile flags' = none := by decide
    have uncolored : ColorMode.ofName? (applyFlags {} flags').color = some .auto := by decide +kernel
    simp only [configure, loadedSettings, nowhere, uncolored]
  have features : (applyFlags {} flags').feature = Feature.initial := by
    funext feature
    cases feature <;> decide +kernel
  have color : (applyFlags {} flags').color = "auto" := by decide +kernel
  have args : flags'.args = flags.args := by decide
  have printing : compileOptions flags' = compileOptions flags := rfl
  obtain ⟨-, -, exit, -, stderr, stderr', -⟩ := warnings_observe "2025"
    (show app.request ["a.wz"] = .action flags from rfl)
    (show app.request ["-Wshadow", "a.wz"] = .action flags' from rfl) configured configured' features
    color args printing fun _ _ => rfl
  exact ⟨exit, stderr.trans (by decide +kernel), stderr'.trans (by decide +kernel)⟩

end Command

end WinZig
