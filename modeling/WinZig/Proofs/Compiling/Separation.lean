import WinZig.Proofs.Compiling.Reports

/-!
# Plain runs on several files

In the plain way of printing, what is wrong with a file is said without the name of the file. Then
files have no influence on each other at all: a run on several files prints what the runs on each of
them print one after another, blank files included, and it fails exactly if one of those fails.

The index of a source is the one thing that a file takes from the files before it. Positions,
messages and the tables of tokens and symbols do not show it. Warnings are still reported under the
name of their file, but they are always about a token, and so their index is that of the file.
-/

namespace WinZig

/-! ## What does not show an index -/

/-- The line on a fault does not show an index. -/
theorem Fault.render_within (index : Int) (fault : Fault) :
    (fault.moved (Token.within index)).render = fault.render := by
  obtain ⟨tok, cause⟩ := fault
  cases cause <;> rfl

/-- The lines on what is wrong with a source do not show an index. -/
theorem Analysis.Moves.lines {index : Int} {before behind : Analysis}
    (moves : before.Moves (Token.within index) behind) : behind.lines = before.lines := by
  have faults : Fault.render ∘ Fault.moved (Token.within index) = Fault.render :=
    funext (Fault.render_within index)
  have diagnostics : Diagnostic.render ∘ Diagnostic.within index = Diagnostic.render := rfl
  rw [Analysis.lines, Analysis.lines, moves.fault, Diagnostic.eq_map_within moves.diagnostics,
    Option.toList_map, List.map_map, List.map_map, faults, diagnostics]

/-- Warnings are the same under two indices, if both are the index of one source. -/
theorem Reporter.notices_within {reporter reporter' : Reporter} {index : Int}
    (found : reporter'.file? index = reporter.file? 0) (same : reporter'.colored = reporter.colored)
    (notices : List Notice) :
    reporter'.notices (notices.map (Notice.moved (Token.within index))) =
      reporter.notices (notices.map (Notice.moved (Token.within 0))) := by
  have warned : reporter'.notice ∘ Notice.moved (Token.within index) =
      reporter.notice ∘ Notice.moved (Token.within 0) :=
    funext fun notice => report_within found same ..
  simp only [Reporter.notices, List.map_map, warned]

/-- The table of tokens does not show the index of their source. -/
theorem Listing.tokens_within (source : SourceFile) (index : Int) (toks : List Token) :
    Listing.tokens source (toks.map (Token.within index)) = Listing.tokens source toks := by
  have rows : (toks.map (Token.within index)).mapIdx (fun place tok =>
      [toString place, tok.start.render, tok.kind.name, tok.text]) =
      toks.mapIdx fun place tok => [toString place, tok.start.render, tok.kind.name, tok.text] := by
    apply List.ext_getElem?
    intro place
    rw [List.getElem?_mapIdx, List.getElem?_mapIdx, List.getElem?_map, Option.map_map]
    rfl
  rw [Listing.tokens, Listing.tokens, rows, List.length_map]

/-- The table of the symbols of a program does not show the index of its source. -/
theorem Listing.symbols_within (index : Int) (checker : Checker) (program : Program) :
    Listing.symbols (checker.check (program.moved (Token.within index))).2.symbols =
      Listing.symbols (checker.check program).2.symbols := by
  simp only [Listing.symbols, Typing.symbols_eq_declaredSymbols, Typing.declaredSymbols_moved,
    List.map_append, List.map_map]
  rfl

/-! ## Sources under an index -/

section Sources

variable {settings : Settings} {source : SourceFile}

/-- A source with tokens and without a fault is analysed as its stream of tokens under any index. -/
theorem Analysis.ofSource_eq_ofReply
    (sound : (Scanner.ofSource 0 (settings.feature .nestedComments) source).fault? = none)
    (some : (Scanner.ofSource 0 (settings.feature .nestedComments) source).tokens ≠ []) (index : Int) :
    ofSource settings index source.content =
      ofReply settings.warning
        ((Scanner.ofSource 0 (settings.feature .nestedComments) source).tokens.map (Token.within index))
        ((Program.ofTokens settings (Scanner.ofSource 0 (settings.feature .nestedComments) source).tokens).moved
          (Token.within index) (Program.moved (Token.within index))) := by
  have fault := Scanner.fault?_within index (.ofSource 0 (settings.feature .nestedComments) source)
  have tokens := Scanner.tokens_within index (.ofSource 0 (settings.feature .nestedComments) source)
  rw [sound] at fault
  change (Scanner.ofSource index (settings.feature .nestedComments) source).fault? = none at fault
  change (Scanner.ofSource index (settings.feature .nestedComments) source).tokens = _ at tokens
  rw [ofSource_of_sound fault, tokens,
    Program.ofTokens_moved (Token.keepsSpelling_within index) settings (stop_within some)]

namespace Session

variable {options : CompileOptions}

/-- Without the tree, listings are the same under any index. -/
theorem listings_within (hidden : options.tree = false) (index : Int) :
    listings options source (Analysis.ofSource settings index source.content) =
      listings options source (Analysis.ofSource settings 0 source.content) := by
  have replied (index : Int) (tokens : List Token) (reply : Reply Program) :
      listings options source (Analysis.ofReply settings.warning (tokens.map (Token.within index))
        (reply.moved (Token.within index) (Program.moved (Token.within index)))) =
        listings options source (Analysis.ofReply settings.warning tokens reply) := by
    cases reply with
    | failed | crashed => simp only [Reply.moved, Analysis.ofReply, listings, Listing.tokens_within]
    | ok program cursor =>
      simp only [Reply.moved, Analysis.ofReply, listings, Listing.tokens_within,
        Listing.symbols_within, hidden, Bool.false_eq_true, if_false]
  cases found : (Scanner.ofSource 0 (settings.feature .nestedComments) source).fault? with
  | some fault =>
    have fault := Scanner.fault?_within index (.ofSource 0 (settings.feature .nestedComments) source)
    rw [found] at fault
    change (Scanner.ofSource index (settings.feature .nestedComments) source).fault? = _ at fault
    rw [Analysis.ofSource_of_fault found, Analysis.ofSource_of_fault fault]
    rfl
  | none =>
    by_cases empty : (Scanner.ofSource 0 (settings.feature .nestedComments) source).tokens = []
    · rw [Analysis.ofSource_blank ⟨found, empty⟩, Analysis.ofSource_blank ⟨found, empty⟩]
    · rw [Analysis.ofSource_eq_ofReply found empty, Analysis.ofSource_eq_ofReply found empty,
        replied, replied]

/-- In the plain way, what is printed about a source behind others is what is printed about it
alone. -/
theorem analysisOutput_alone (plain : options.plain = true) (quiet : options.verbose = false)
    (hidden : options.tree = false) (before : List SourceFile) :
    analysisOutput options { files := before ++ [source], colored := options.colored } source
        (Analysis.ofSource settings before.length source.content) =
      analysisOutput options { files := [source], colored := options.colored } source
        (Analysis.ofSource settings 0 source.content) := by
  apply Output.eq_of_streams
  · have lines : (Analysis.ofSource settings before.length source.content).lines =
        (Analysis.ofSource settings 0 source.content).lines := by
      by_cases blank : Analysis.IsBlank settings.feature source
      · rw [Analysis.ofSource_blank blank, Analysis.ofSource_blank blank]
      · exact (Analysis.ofSource_within blank before.length).lines
    rw [stdout_analysisOutput quiet, stdout_analysisOutput quiet, listings_within hidden, lines]
  · rw [stderr_analysisOutput, stderr_analysisOutput, plain, if_pos rfl, if_pos rfl]
    by_cases blank : Analysis.IsBlank settings.feature source
    · rw [Analysis.ofSource_blank blank, Analysis.ofSource_blank blank]
      simp only [Analysis.notices, Reporter.notices, List.map_nil]
    · have found : Reporter.file? { files := before ++ [source], colored := options.colored }
          before.length = Reporter.file? { files := [source], colored := options.colored } 0 := by
        simp [Reporter.file?]
      rw [(Analysis.ofSource_within blank before.length).notices,
        Reporter.notices_within found rfl, ← (Analysis.ofSource_within blank 0).notices]

end Session

/-- Nothing is wrong with a source exactly if it is scanned, parsed and not complained about. -/
theorem Analysis.isClean_iff (settings : Settings) (index : Int) (source : SourceFile) :
    (ofSource settings index source.content).isClean = true ↔
      (Scanner.ofSource index (settings.feature .nestedComments) source).fault? = none ∧
        ∃ program cursor, Program.ofTokens settings
            (Scanner.ofSource index (settings.feature .nestedComments) source).tokens =
              .ok program cursor ∧
          (Checker.check {} program).2.diagnostics = [] := by
  cases found : (Scanner.ofSource index (settings.feature .nestedComments) source).fault? with
  | some fault =>
    rw [ofSource_of_fault found]
    simp [isClean]
  | none =>
    rw [ofSource_of_sound found]
    cases read : Program.ofTokens settings
        (Scanner.ofSource index (settings.feature .nestedComments) source).tokens with
    | failed | crashed => simp [ofReply, isClean]
    | ok program cursor =>
      simp [ofReply, isClean, Typing.diagnostics_check_eq { shown := settings.warning } {} program]

/-- Whether something is wrong with a source does not depend on its index. -/
theorem Analysis.isClean_within (settings : Settings) (source : SourceFile) (index : Int) :
    (ofSource settings index source.content).isClean =
      (ofSource settings 0 source.content).isClean := by
  by_cases blank : IsBlank settings.feature source
  · rw [ofSource_blank blank, ofSource_blank blank]
  · have moves := ofSource_within blank index
    rw [isClean_ofSource, isClean_ofSource, moves.fault, Diagnostic.eq_map_within moves.diagnostics]
    simp

end Sources

/-! ## Files -/

namespace Session

variable {options : CompileOptions} (settings : Settings) (tree : FileTree)

/-- In the plain way, what is printed about a file behind others is what is printed about it alone. -/
theorem outputBehind_alone (plain : options.plain = true) (quiet : options.verbose = false)
    (hidden : options.tree = false) (before : List SourceFile) (path : String) :
    outputBehind options settings tree before path =
      outputBehind options settings tree [] path := by
  unfold outputBehind
  cases tree.read path with
  | error error => rfl
  | ok bytes => exact analysisOutput_alone plain quiet hidden before

/-- A file fails behind others exactly if it fails alone. -/
theorem failsBehind_alone (before : List SourceFile) (path : String) :
    failsBehind settings tree before path = failsBehind settings tree [] path := by
  unfold failsBehind
  cases tree.read path with
  | error error => rfl
  | ok bytes =>
    exact congrArg (!·) (Analysis.isClean_within settings ⟨path, Text.decode bytes⟩ _)

/-- A file alone does not fail exactly if it can be read, scanned and parsed and is not complained
about. -/
theorem failsBehind_eq_false_iff (path : String) :
    failsBehind settings tree [] path = false ↔
      ∃ bytes program cursor, tree.read path = .ok bytes ∧
        (Scanner.ofSource 0 (settings.feature .nestedComments) ⟨path, Text.decode bytes⟩).fault? =
          none ∧
        Program.ofTokens settings (Scanner.ofSource 0 (settings.feature .nestedComments)
          ⟨path, Text.decode bytes⟩).tokens = .ok program cursor ∧
        (Checker.check {} program).2.diagnostics = [] := by
  unfold failsBehind
  cases tree.read path with
  | error error => simp
  | ok bytes =>
    have clean := Analysis.isClean_iff settings 0 ⟨path, Text.decode bytes⟩
    simp only [List.length_nil, Nat.cast_zero, Bool.not_eq_false', clean, Except.ok.injEq,
      exists_and_left, exists_eq_left']

end Session

namespace Command

variable (years : String) (tree : FileTree) {options paths : List String} {flags : FlagSet}

/-- Plain runs on several files are runs on one file each, once there are settings. Whatever the
options are, as long as they ask for the plain way and neither for stages nor for trees, there are two
cases. Where the settings are refused, every run says so once and ends with status 2, whatever files it
is given. Otherwise a run on some files prints on both streams what the runs on each of them print, one
after another, also where a file cannot be read or is named twice. It ends with status 1 if one of
those runs does and with 0 otherwise, and a run on one file ends with 0 exactly if the file can be
read, scanned and parsed and is not complained about.

Proof: paths that are taken one by one are taken together and leave the configuration as it is. What
is printed about a file depends on the files before it through its index only, which is not shown. -/
theorem plain_runs_separate (accepted : app.request options = .action flags)
    (nothing : flags.args = []) (plain : flags.isOn "plain" = true) (quiet : flags.isOn "verbose" = false)
    (hidden : flags.isOn "dump-ast" = false) (each : ∀ path ∈ paths, app.TakesPath options path)
    (some : paths ≠ []) :
    (∀ message, configure FileSettings.ofText tree flags = .error message → ∀ files ⊆ paths,
      run years tree (options ++ files) = usageError false message) ∧
    ∀ settings mode, configure FileSettings.ofText tree flags = .ok (settings, mode) →
      (run years tree (options ++ paths)).output.stdout =
        String.join (paths.map fun path => (run years tree (options ++ [path])).output.stdout) ∧
      (run years tree (options ++ paths)).output.stderr =
        String.join (paths.map fun path => (run years tree (options ++ [path])).output.stderr) ∧
      (run years tree (options ++ paths)).exit =
        (if ∃ path ∈ paths, (run years tree (options ++ [path])).exit = 1 then 1 else 0) ∧
      ∀ path ∈ paths, (run years tree (options ++ [path])).exit = 0 ↔
        ∃ bytes program cursor, tree.read path = .ok bytes ∧
          (Scanner.ofSource 0 (settings.feature .nestedComments) ⟨path, Text.decode bytes⟩).fault? =
            none ∧
          Program.ofTokens settings (Scanner.ofSource 0 (settings.feature .nestedComments)
            ⟨path, Text.decode bytes⟩).tokens = .ok program cursor ∧
          (Checker.check {} program).2.diagnostics = [] := by
  refine ⟨fun message refused files within => run_refused years accepted nothing refused
    fun path member => each path (within member), fun settings mode configured => ?_⟩
  have outputs := Session.eachBehind_alone tree (Session.outputBehind_alone settings tree
    (show (compileOptions flags mode).plain = true from plain) quiet hidden)
  have failures := Session.eachBehind_alone tree (Session.failsBehind_alone settings tree)
  have together := run_quiet years accepted nothing configured quiet each some
  have alone : ∀ path ∈ paths, run years tree (options ++ [path]) =
      ⟨if Session.failsBehind settings tree [] path then 1 else 0,
        Session.outputBehind (compileOptions flags mode) settings tree [] path⟩ := by
    intro path member
    have taken : ∀ other ∈ [path], app.TakesPath options other :=
      List.forall_mem_singleton.mpr (each path member)
    rw [run_quiet years accepted nothing configured quiet taken (List.cons_ne_nil _ _),
      Session.compileAll_output, Session.compileAll_failed, outputs, failures]
    simp [Output.join]
  have printed : (run years tree (options ++ paths)).output =
      Output.join (paths.map fun path => (run years tree (options ++ [path])).output) := by
    rw [together, Session.compileAll_output, outputs]
    exact congrArg Output.join
      (List.map_congr_left fun path member => (congrArg Outcome.output (alone path member)).symm)
  have status : ∀ path ∈ paths, (run years tree (options ++ [path])).exit = 0 ↔
      Session.failsBehind settings tree [] path = false := by
    intro path member
    rw [alone path member]
    cases failed : Session.failsBehind settings tree [] path <;> simp
  refine ⟨?_, ?_, ?_, ?_⟩
  · simp only [printed, Output.join, List.map_map, Function.comp_def]
  · simp only [printed, Output.join, List.map_map, Function.comp_def]
  · rw [together, Session.compileAll_failed, failures]
    have some : (∃ path ∈ paths, (run years tree (options ++ [path])).exit = 1) ↔
        (paths.map (Session.failsBehind settings tree [])).any id = true := by
      rw [List.any_map, List.any_eq_true]
      apply exists_congr
      intro path
      apply and_congr_right
      intro member
      rw [alone path member]
      cases failed : Session.failsBehind settings tree [] path <;> simp [failed]
    simp only [some]
  · intro path member
    rw [status path member, Session.failsBehind_eq_false_iff]

/-- A file that can be scanned is read twice, with a missing file and a blank one in between. -/
theorem plain_runs_separate_threeFiles :
    let paths := ["c.wz", "missing.wz", "b.wz", "c.wz"]
    (run "2025" threeFiles (["--plain"] ++ paths)).output.stdout = String.join
        (paths.map fun path => (run "2025" threeFiles (["--plain"] ++ [path])).output.stdout) ∧
      (run "2025" threeFiles (["--plain"] ++ paths)).output.stderr = String.join
        (paths.map fun path => (run "2025" threeFiles (["--plain"] ++ [path])).output.stderr) ∧
      (run "2025" threeFiles (["--plain"] ++ paths)).exit =
        if ∃ path ∈ paths, (run "2025" threeFiles (["--plain"] ++ [path])).exit = 1 then 1 else 0 := by
  let flags := (app.flags.parse ["--plain"]).1
  have accepted : app.request ["--plain"] = .action flags := rfl
  have configured : configure FileSettings.ofText threeFiles flags = .ok ({}, .auto) :=
    configure_of_unset (by decide) (by decide) (by decide +kernel)
  have each : ∀ path ∈ ["c.wz", "missing.wz", "b.wz", "c.wz"], app.TakesPath ["--plain"] path := by
    simp only [List.forall_mem_cons]
    exact ⟨⟨_, rfl, rfl⟩, ⟨_, rfl, rfl⟩, ⟨_, rfl, rfl⟩, ⟨_, rfl, rfl⟩, by simp⟩
  obtain ⟨stdout, stderr, exit, -⟩ := (plain_runs_separate "2025" threeFiles accepted rfl (by decide)
    (by decide) (by decide) each (List.cons_ne_nil _ _)).2 _ _ configured
  exact ⟨stdout, stderr, exit⟩

/-- Two empty files, and a settings file that is no document. -/
def refusedSettings : FileTree where
  entries := [(["a.wz"], .file []), (["b.wz"], .file []),
    (["winzigc.toml"], .file "nonsense".toUTF8.toList)]

/-- Settings that are refused are reported once and not for every file, and the status is neither 0
nor 1. -/
theorem refusal_not_repeated :
    let paths := ["a.wz", "b.wz"]
    (run "2025" refusedSettings (["--plain"] ++ paths)).output.stderr ≠ String.join
        (paths.map fun path => (run "2025" refusedSettings (["--plain"] ++ [path])).output.stderr) ∧
      (∀ path ∈ paths, (run "2025" refusedSettings (["--plain"] ++ [path])).exit = 2) ∧
      (run "2025" refusedSettings (["--plain"] ++ paths)).exit = 2 := by
  decide +kernel

end Command

end WinZig
