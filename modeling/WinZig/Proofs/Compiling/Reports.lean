import WinZig.Proofs.Compiling.Attribution
import WinZig.Proofs.Compiling.Outputs

/-!
# Reports on several files

Files are compiled one after another, and each is reported on as if it were the only one: with its
own name and one of its own lines, whatever files came before it. Files that cannot be read take no
part in this; they are not counted.

A blank file is the exception. It is refused at a place that carries the index zero, so the report is
on the first file that can be read, under the name of that file and with its first line. Blank files
are reported on as if they were alone exactly where they are that first file themselves.
-/

namespace WinZig

/-! ## Reports on a token -/

/-- A line as it is quoted: without the carriage returns at its end. -/
def quoted (line : List Char) : String := String.ofList (Text.dropEndWhile (· == '\r') line)

/-- A text is a report on a place of a source: it starts with the name of the source and the place,
and quotes the line of the place. -/
def IsReportOn (source : SourceFile) (text : String) : Prop :=
  ∃ (place : Position) (message marker : String) (line : List Char),
    source.line? place.line = some line ∧
      text = s!"{source.name}:{place.render}: {message}\n" ++ s!"  {quoted line}\n  {marker}\n"

namespace Reporter

variable {reporter : Reporter}

/-- A report on a place of a source by itself. -/
theorem isReportOn_report {source : SourceFile} {tok : Token} {place : Position} {line : List Char}
    (colored : Bool) (style : Style) (label message suffix : String) (own : tok.file = 0)
    (column : 1 ≤ place.column) (shown : source.line? place.line = some line) :
    IsReportOn source
      (report { files := [source], colored } style label tok place message suffix) := by
  have file : file? { files := [source], colored } tok.file = some source := by
    simp [file?, own]
  have inside : ¬ place.column ≤ 0 := by omega
  simp only [report, excerpt, file, Option.map_some, Option.getD_some, Option.bind_some, shown,
    inside, if_false]
  refine ⟨place, styled { files := [source], colored } style label ++ " " ++ message ++ suffix,
    String.ofList (padding line place.column) ++ styled { files := [source], colored } .marker
      (String.ofList (marker tok.length)), line, shown, ?_⟩
  simp [String.append_assoc, toString, quoted]

/-- A report depends on the source of its token, not on the index of that source. -/
theorem report_within {reporter' : Reporter} {index : Int}
    (found : reporter'.file? index = reporter.file? 0) (same : reporter'.colored = reporter.colored)
    (style : Style) (label : String) (tok : Token)
    (place : Position) (message suffix : String) :
    reporter'.report style label (tok.within index) place message suffix =
      reporter.report style label (tok.within 0) place message suffix := by
  have styles (style : Style) (text : String) : reporter'.styled style text =
      reporter.styled style text := by
    rw [styled, styled, same]
  simp only [report, excerpt, Token.within, found, styles]

/-- The reports on what is found in a source: warnings, the fault, and the diagnostics. -/
def reports (reporter : Reporter) (analysis : Analysis) : List String :=
  analysis.notices.map reporter.notice ++ reporter.errors analysis

end Reporter

/-! ## Reports on a source -/

/-- What is printed on the error stream about a source is the reports on it. -/
theorem Session.stderr_reports {options : CompileOptions} (visible : options.plain = false)
    (reporter : Reporter) (source : SourceFile) (analysis : Analysis) :
    (analysisOutput options reporter source analysis).stderr =
      String.join (reporter.reports analysis) := by
  rw [stderr_analysisOutput, visible, Reporter.reports, String.join_append]
  rfl

namespace Diagnostic

/-- A complaint about a token of the source of a given index. -/
def within (index : Int) (diagnostic : Diagnostic) : Diagnostic :=
  { diagnostic with token := diagnostic.token.within index }

/-- The index of a source has no part in places, so complaints that move with the index change in
nothing else. -/
theorem eq_within {index : Int} {before behind : Diagnostic}
    (moves : before.MovesTo (Token.within index) behind) : behind = before.within index := by
  obtain ⟨position, token, complaint⟩ := before
  obtain ⟨position', token', complaint'⟩ := behind
  obtain ⟨moved, same, places⟩ := moves
  dsimp only at moved same places
  subst moved same
  rcases places with ⟨start, start'⟩ | ⟨finish, finish'⟩
  · rw [start, start']
    rfl
  · rw [finish, finish']
    rfl

/-- Complaints that move with the index change in nothing else, one by one. -/
theorem eq_map_within {index : Int} {before behind : List Diagnostic}
    (moves : Typing.ComplaintsMove (Token.within index) before behind) :
    behind = before.map (Diagnostic.within index) := by
  induction moves with
  | nil => rfl
  | cons first _ inductionHypothesis => rw [List.map_cons, ← eq_within first, ← inductionHypothesis]

end Diagnostic

namespace Reporter

variable {reporter reporter' : Reporter} {index : Int}

/-- The same is reported on what is found under two indices, if both are the index of one source. -/
theorem reports_within (found : reporter'.file? index = reporter.file? 0)
    (same : reporter'.colored = reporter.colored)
    {base before behind : Analysis} (first : base.Moves (Token.within 0) before)
    (second : base.Moves (Token.within index) behind) :
    reporter'.reports behind = reporter.reports before := by
  have warned : reporter'.notice ∘ Notice.moved (Token.within index) =
      reporter.notice ∘ Notice.moved (Token.within 0) :=
    funext fun notice => report_within found same ..
  have message (index : Int) (fault : Fault) :
      (fault.moved (Token.within index)).message = fault.message := by
    obtain ⟨tok, cause⟩ := fault
    cases cause <;> rfl
  have blamed : reporter'.fault ∘ Fault.moved (Token.within index) =
      reporter.fault ∘ Fault.moved (Token.within 0) := by
    funext fault
    rw [Function.comp_apply, Function.comp_apply, Reporter.fault, Reporter.fault, message, message]
    exact report_within found same ..
  have diagnosed : reporter'.diagnostic ∘ Diagnostic.within index =
      reporter.diagnostic ∘ Diagnostic.within 0 :=
    funext fun diagnostic => report_within found same ..
  simp only [reports, errors, second.notices, first.notices, second.fault, first.fault,
    Diagnostic.eq_map_within first.diagnostics, Diagnostic.eq_map_within second.diagnostics,
    Option.toList_map, List.map_map, warned, blamed, diagnosed]

end Reporter

/-! ## Blank sources -/

open Analysis (blankFault)

/-- A line has no end of line in it. -/
theorem newline_notMem_line {source : SourceFile} {number : Int} {line : List Char}
    (found : source.line? number = some line) : '\n' ∉ line := by
  unfold SourceFile.line? at found
  split at found
  · exact absurd found (by simp)
  · exact Text.notMem_of_mem_splitOn (List.mem_of_getElem? found)

/-- The last line of a text and what stands before it are determined by the text. -/
theorem eq_of_last_line {head head' tail tail' : List Char} (flat : '\n' ∉ tail)
    (flat' : '\n' ∉ tail') (same : head ++ '\n' :: tail = head' ++ '\n' :: tail') :
    head = head' := by
  have cut {head tail : List Char} (flat : '\n' ∉ tail) :
      (head ++ '\n' :: tail).reverse.takeWhile (· != '\n') = tail.reverse := by
    rw [List.reverse_append, List.reverse_cons, List.append_assoc, List.takeWhile_append_of_pos]
    · simp
    · intro c member
      rw [List.mem_reverse] at member
      rw [bne_iff_ne]
      rintro rfl
      exact flat member
  have tails : tail = tail' := by
    rw [← List.reverse_inj, ← cut flat, ← cut flat', same]
  rw [tails] at same
  exact List.append_cancel_right same

namespace Reporter

/-- The fault of a blank source is reported on the source with the index zero: between the name of
that source and its first line, and behind the line, stands what depends on colours only. -/
theorem exists_blank_report : ∃ head tail : Bool → List Char,
    ∀ (reporter : Reporter) (source : SourceFile), reporter.file? 0 = some source →
      ∃ line, '\n' ∉ line ∧ (reporter.fault blankFault).toList =
        source.name.toList ++ head reporter.colored ++ '\n' :: line ++ tail reporter.colored := by
  refine ⟨fun colored => (":1:1: " ++ styled { colored } .error "error:" ++ " " ++
    blankFault.message).toList, fun colored => ("\n  " ++ styled { colored } .marker "^" ++ "\n").toList,
    fun reporter source found => ?_⟩
  obtain ⟨line, shown⟩ := exists_first_line source
  have flat : '\n' ∉ (quoted line).toList := by
    intro member
    have inside : '\n' ∈ Text.dropEndWhile (· == '\r') line := by simpa [quoted] using member
    have sublist := (List.dropWhile_sublist (· == '\r') (l := line.reverse)).reverse
    rw [List.reverse_reverse] at sublist
    exact newline_notMem_line shown (sublist.mem inside)
  refine ⟨' ' :: ' ' :: (quoted line).toList, by simpa using flat, ?_⟩
  have styles (style : Style) (text : String) : reporter.styled style text =
      styled { colored := reporter.colored } style text := rfl
  have place : blankFault.token.start = ⟨1, 1⟩ := rfl
  have file : blankFault.token.file = 0 := rfl
  have rendered : Position.render ⟨1, 1⟩ = "1:1" := by decide
  have mark : String.ofList (marker blankFault.token.length) = "^" := by decide
  have pad : String.ofList (padding line 1) = "" := by simp [padding]
  simp only [Reporter.fault, Reporter.error, report, excerpt, place, file, found, shown, styles,
    Option.map_some, Option.getD_some, Option.bind_some, rendered, mark, pad]
  simp [quoted, toString]

/-- Blank sources are reported on alike only if it is under one name. -/
theorem name_of_blankFault {reporter reporter' : Reporter} {source source' : SourceFile}
    (found : reporter.file? 0 = some source) (found' : reporter'.file? 0 = some source')
    (colored : reporter'.colored = reporter.colored)
    (same : reporter'.fault blankFault = reporter.fault blankFault) : source'.name = source.name := by
  obtain ⟨head, tail, written⟩ := exists_blank_report
  obtain ⟨line, flat, text⟩ := written reporter source found
  obtain ⟨line', flat', text'⟩ := written reporter' source' found'
  rw [← String.toList_inj, text, text', colored] at same
  have names := eq_of_last_line flat' flat (List.append_cancel_right same)
  exact String.toList_inj.mp (List.append_cancel_right names)

end Reporter

/-! ## Files one after another -/

namespace Session

variable (options : CompileOptions) (settings : Settings) (tree : FileTree)

/-- The reports on a source that is compiled behind others. -/
def reportsBehind (before : List SourceFile) (source : SourceFile) : List String :=
  Reporter.reports { files := before ++ [source], colored := options.colored }
    (Analysis.ofSource settings before.length source.content)

/-! ## Behind others and alone -/

section Alone

variable {before : List SourceFile} {source : SourceFile}

/-- A source that is not blank is reported on as if it were alone. -/
theorem reportsBehind_of_not_blank (some : ¬ Analysis.IsBlank settings.feature source) :
    reportsBehind options settings before source = reportsBehind options settings [] source := by
  have found : Reporter.file? { files := before ++ [source], colored := options.colored }
      before.length =
      Reporter.file? { files := [] ++ [source], colored := options.colored } 0 := by
    simp [Reporter.file?]
  exact Reporter.reports_within found rfl (Analysis.ofSource_within some 0)
    (Analysis.ofSource_within some before.length)

/-- A blank source is reported on once, at its fault. -/
theorem reportsBehind_of_blank (blank : Analysis.IsBlank settings.feature source) :
    reportsBehind options settings before source =
      [Reporter.fault { files := before ++ [source], colored := options.colored }
        blankFault] := by
  rw [reportsBehind, Analysis.ofSource_blank blank]
  rfl

/-- What is printed on the error stream about a file that can be read is the reports on it. -/
theorem stderr_outputBehind_of_at? (visible : options.plain = false) {path : String}
    (found : SourceFile.at? tree path = some source) :
    (outputBehind options settings tree before path).stderr =
      String.join (reportsBehind options settings before source) := by
  unfold SourceFile.at? at found
  split at found
  · exact absurd found (by simp)
  · next bytes read =>
    obtain rfl := Option.some.inj found
    simp only [outputBehind, read, stderr_reports visible, reportsBehind]

/-- What is printed on the error stream about a file behind sources that can be read is what is printed
about it alone, exactly if it is not blank or is the first of them. -/
theorem stderr_outputBehind_iff (visible : options.plain = false)
    (each : ∀ source ∈ before, SourceFile.at? tree source.name = some source) (path : String) :
    (outputBehind options settings tree before path).stderr =
        (outputBehind options settings tree [] path).stderr ↔
      ∀ source ∈ SourceFile.at? tree path, Analysis.IsBlank settings.feature source →
        (before ++ [source]).head? = some source := by
  cases read : tree.read path with
  | error error =>
    have nothing : SourceFile.at? tree path = none := by rw [SourceFile.at?, read]
    simp only [outputBehind, read, nothing, Option.not_mem_none, false_imp_iff, implies_true, iff_true]
    rfl
  | ok bytes =>
    let source : SourceFile := { name := path, content := Text.decode bytes }
    have found : SourceFile.at? tree path = some source := by rw [SourceFile.at?, read]
    rw [stderr_outputBehind_of_at? options settings tree visible found,
      stderr_outputBehind_of_at? options settings tree visible found, found]
    simp only [Option.mem_some_iff, forall_eq']
    by_cases blank : Analysis.IsBlank settings.feature source
    · simp only [reportsBehind_of_blank options settings blank, String.join_cons, String.join_nil,
        String.append_empty, blank, true_imp_iff]
      cases before with
      | nil => simp
      | cons first rest =>
        have named := (List.forall_mem_cons.mp each).1
        rw [List.cons_append, List.head?_cons, Option.some_inj]
        constructor
        · intro same
          have alone : Reporter.file? { files := [] ++ [source], colored := options.colored } 0 =
              some source := rfl
          have behind : Reporter.file?
              { files := first :: rest ++ [source], colored := options.colored } 0 = some first := rfl
          have name : first.name = path := Reporter.name_of_blankFault alone behind rfl same
          rw [name, found] at named
          exact (Option.some.inj named).symm
        · rintro rfl
          rfl
    · rw [reportsBehind_of_not_blank options settings blank]
      simp [blank]

/-- The reports on a source that is compiled alone are reports on it. -/
theorem isReportOn_reportsBehind (source : SourceFile) :
    ∀ report ∈ reportsBehind options settings [] source, IsReportOn source report := by
  have points := Analysis.ofSource_points settings 0 source
  have files := Analysis.ofSource_file settings source
  have own {tok : Token} {place : Position} {style : Style} {label message suffix : String}
      (file : tok.file = 0) (inside : tok.Points source)
      (position : place = tok.start ∨ place = tok.finish) :
      IsReportOn source (Reporter.report { files := [source], colored := options.colored } style
        label tok place message suffix) := by
    obtain ⟨line, shown⟩ := inside.line
    rcases position with rfl | rfl
    · exact Reporter.isReportOn_report _ _ _ _ _ file inside.first shown
    · exact Reporter.isReportOn_report _ _ _ _ _ file inside.last shown
  unfold reportsBehind Reporter.reports Reporter.errors
  rw [List.forall_mem_append, List.forall_mem_append, List.forall_mem_map, List.forall_mem_map,
    List.forall_mem_map]
  refine ⟨?_, ?_, ?_⟩
  · intro notice member
    exact own (files.notices notice member) (points.notices notice member) (.inl rfl)
  · intro fault member
    have found := Option.mem_toList.mp member
    exact own (files.fault fault found) (points.fault fault found) (.inl rfl)
  · intro diagnostic member
    obtain ⟨inside, position⟩ := points.diagnostics diagnostic member
    exact own (files.diagnostics diagnostic member).1 inside position

end Alone

/-! ## All files -/

/-- A further path leaves the blank sources alone that are first among those before it. -/
theorem blank_first_concat (blank : SourceFile → Prop) (before : List SourceFile)
    (last : Option SourceFile) :
    (∀ source ∈ before ++ last.toList, blank source →
        (before ++ last.toList).head? = some source) ↔
      (∀ source ∈ before, blank source → before.head? = some source) ∧
        ∀ source ∈ last, blank source → (before ++ [source]).head? = some source := by
  have within : (∀ source ∈ before, blank source → (before ++ last.toList).head? = some source) ↔
      ∀ source ∈ before, blank source → before.head? = some source := by
    cases before with
    | nil => simp
    | cons first rest => rfl
  rw [List.forall_mem_append, within]
  cases last with
  | none => simp
  | some source => simp

variable {options} (visible : options.plain = false)

include visible

/-- Files are reported on as if they were alone, from the first to any of them, exactly if every blank
source is the first source.

Proof: by induction on the paths from the end. A further file adds what is printed about it behind the
sources before, and this is what is printed about it alone exactly if it is not blank or comes
first. -/
theorem compileAll_separate_iff (paths : List String) :
    (∀ front, front <+: paths → (compileAll options settings tree front).output.stderr =
        String.join (front.map fun path => (outputBehind options settings tree [] path).stderr)) ↔
      ∀ source ∈ SourceFile.atAll tree paths, Analysis.IsBlank settings.feature source →
        (SourceFile.atAll tree paths).head? = some source := by
  induction paths using List.reverseRecOn with
  | nil =>
    constructor
    · intro _ source member
      exact absurd member List.not_mem_nil
    · intro _ front nothing
      rw [List.prefix_nil.mp nothing]
      rfl
  | append_singleton paths path inductionHypothesis =>
    have last := stderr_outputBehind_iff options settings tree visible
      (SourceFile.at?_of_mem tree paths) path
    rw [SourceFile.atAll_concat, blank_first_concat, ← inductionHypothesis, ← last]
    simp only [List.prefix_concat_iff, or_imp, forall_and, forall_eq]
    rw [compileAll_concat, compile_output, compileAll_sources, Output.stderr_append, List.map_append,
      List.map_singleton, String.join_append, String.join_cons, String.join_nil, String.append_empty, and_comm]
    apply and_congr_right
    intro before
    rw [before paths (List.prefix_refl paths), String.append_right_inj]

end Session

namespace Command

variable (years : String) (tree : FileTree) {options paths : List String} {flags : FlagSet}
  {settings : Settings} {mode : ColorMode}

/-- What a run on some files prints on the error stream is what compiling them prints there. -/
theorem run_stderr (accepted : app.request options = .action flags) (nothing : flags.args = [])
    (configured : configure FileSettings.ofText tree flags = .ok (settings, mode))
    (each : ∀ path ∈ paths, app.TakesPath options path) (some : paths ≠ []) :
    (run years tree (options ++ paths)).output.stderr =
      (Session.compileAll (compileOptions flags mode) settings tree paths).output.stderr := by
  rw [run_append accepted nothing configured each some, Output.stderr_append, Output.stderr_when,
    String.append_empty]

/-- What a run on one file prints on the error stream. -/
theorem run_one_stderr (accepted : app.request options = .action flags) (nothing : flags.args = [])
    (configured : configure FileSettings.ofText tree flags = .ok (settings, mode)) {path : String}
    (taken : app.TakesPath options path) :
    (run years tree (options ++ [path])).output.stderr =
      (Session.outputBehind (compileOptions flags mode) settings tree [] path).stderr := by
  have each : ∀ other ∈ [path], app.TakesPath options other := List.forall_mem_singleton.mpr taken
  rw [run_stderr years tree accepted nothing configured each (List.cons_ne_nil _ _),
    Session.compileAll_output]
  simp [Session.eachBehind, Output.join, SourceFile.atAll]

/-- Every report names and quotes its own file, but for blank files. Whatever the options are, as long
as reports go to the error stream, what a run prints there about some files, from the first to any of
them, is what the runs on these files print one after another, exactly if every blank source is the
first source that can be read. And a run on one file prints that the file cannot be read, or reports
that name the file and quote a line of it.

Proof: paths that are taken one by one are taken together and leave the configuration as it is, so
all runs compile with the same settings. What is found in a source is the same under any index, and
it is found at places of the source; only the fault of a blank source has the index zero under any
index. -/
theorem reports_separate (accepted : app.request options = .action flags) (nothing : flags.args = [])
    (configured : configure FileSettings.ofText tree flags = .ok (settings, mode))
    (visible : flags.isOn "plain" = false) (each : ∀ path ∈ paths, app.TakesPath options path) :
    ((∀ front, front <+: paths → front ≠ [] →
        (run years tree (options ++ front)).output.stderr =
          String.join (front.map fun path => (run years tree (options ++ [path])).output.stderr)) ↔
      ∀ source ∈ SourceFile.atAll tree paths, Analysis.IsBlank settings.feature source →
        (SourceFile.atAll tree paths).head? = some source) ∧
    (∀ path ∈ paths, ∀ source, SourceFile.at? tree path = some source →
      ∃ reports, (run years tree (options ++ [path])).output.stderr = String.join reports ∧
        ∀ report ∈ reports, IsReportOn source report) ∧
    ∀ path ∈ paths, ∀ error, tree.read path = .error error →
      (run years tree (options ++ [path])).output.stderr =
        Reporter.plainError { colored := mode = .always }
          s!"could not read file '{path}': {error.message}" := by
  have silent : (compileOptions flags mode).plain = false := visible
  have alone {path : String} (member : path ∈ paths) :=
    run_one_stderr years tree accepted nothing configured (each path member)
  constructor
  · rw [← Session.compileAll_separate_iff settings tree silent]
    apply forall₂_congr
    intro front isFront
    have eachInFront : ∀ path ∈ front, app.TakesPath options path :=
      fun path member => each path (isFront.subset member)
    have singly : front.map (fun path => (run years tree (options ++ [path])).output.stderr) =
        front.map fun path =>
          (Session.outputBehind (compileOptions flags mode) settings tree [] path).stderr :=
      List.map_congr_left fun path member => alone (isFront.subset member)
    rw [singly]
    by_cases empty : front = []
    · subst empty
      simp [Session.compileAll]
    · simp only [ne_eq, empty, not_false_eq_true, true_imp_iff,
        run_stderr years tree accepted nothing configured eachInFront empty]
  constructor
  · intro path member source found
    refine ⟨_, ?_, Session.isReportOn_reportsBehind (compileOptions flags mode) settings source⟩
    rw [alone member, Session.stderr_outputBehind_of_at? _ settings tree silent found]
  · intro path member error unreadable
    rw [alone member, Session.outputBehind, unreadable]
    rfl

/-- Two empty files and one that is not blank. -/
def threeFiles : FileTree where
  entries := [(["a.wz"], .file []), (["b.wz"], .file []), (["c.wz"], .file [120])]

/-- A blank source behind a missing file and before another source is the first source. -/
theorem reports_separate_threeFiles :
    (run "2025" threeFiles ["missing.wz", "a.wz", "c.wz"]).output.stderr =
      String.join (["missing.wz", "a.wz", "c.wz"].map fun path =>
        (run "2025" threeFiles [path]).output.stderr) := by
  have accepted : app.request [] = .action app.flags := rfl
  have each : ∀ path ∈ ["missing.wz", "a.wz", "c.wz"], app.TakesPath [] path := by
    simp only [List.forall_mem_cons]
    exact ⟨⟨_, rfl, rfl⟩, ⟨_, rfl, rfl⟩, ⟨_, rfl, rfl⟩, by simp⟩
  have sources : SourceFile.atAll threeFiles ["missing.wz", "a.wz", "c.wz"] =
      [⟨"a.wz", []⟩, ⟨"c.wz", ['x']⟩] := rfl
  have written : ¬ Analysis.IsBlank ({} : Settings).feature ⟨"c.wz", ['x']⟩ := by
    rintro ⟨-, nothing⟩
    exact absurd nothing (by decide +kernel)
  have separate := (reports_separate "2025" threeFiles accepted rfl
    (configure_of_unset (by decide) (by decide) (by decide +kernel)) (by decide) each).1.mpr
  rw [sources] at separate
  apply separate ?_ _ (List.prefix_refl _) (List.cons_ne_nil _ _)
  simp [written]

/-- An empty file behind another empty file is reported on as if it were the other one. -/
theorem blank_report_misplaced :
    (run "2025" threeFiles ["a.wz", "b.wz"]).output.stderr ≠
      String.join (["a.wz", "b.wz"].map fun path => (run "2025" threeFiles [path]).output.stderr) := by
  decide +kernel

end Command

end WinZig
