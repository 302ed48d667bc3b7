import WinZig.Golden.Location
import WinZig.Proofs.Compiling.Messages
import WinZig.Proofs.Compiling.Outputs
import WinZig.Proofs.Golden.Locations

/-!
# Recognising what was reported

A report is printed as a heading, which says what is wrong where, and two further lines, which echo the
source. The headings are found again in the output of a run by their shape alone: they do not start
with a blank, and they hold a location. So everything that is printed has to respect this shape: lines
have to stay lines although messages quote the source, and nothing that is echoed may start at the
margin.

A text is said to *show* some headings if it is made of whole lines and these are the headings among
them. This is kept when texts are put one behind the other, whatever the streams are.
-/

namespace WinZig

/-! ## Headings among lines -/

namespace Golden

/-- Some lines, each with its end. -/
def textOf (rows : List String) : String := String.join (rows.map (· ++ "\n"))

/-- A text of lines divides into those lines, with nothing behind the last end. -/
theorem lines_textOf {rows : List String} (flat : ∀ row ∈ rows, Flat row) :
    lines (textOf rows) = rows ++ [""] := by
  induction rows with
  | nil => rfl
  | cons row rows inductionHypothesis =>
    obtain ⟨first, others⟩ := List.forall_mem_cons.mp flat
    have text : (textOf (row :: rows)).toList = row.toList ++ '\n' :: (textOf rows).toList := by
      simp [textOf, String.join_cons]
    rw [lines, text, Place.splitOn_append first, List.splitOn_cons_eq_if_modifyHead,
      if_pos (beq_self_eq_true _), List.modifyHead_cons, List.append_nil, List.map_cons,
      String.ofList_toList, List.cons_append, ← inductionHypothesis others]
    rfl

/-- A text is made of whole lines, and these of them report something. -/
def Shows (text : String) (headings : List String) : Prop :=
  ∃ rows, text = textOf rows ∧ (∀ row ∈ rows, Flat row) ∧
    rows.filter (fun row => isReport row.toList) = headings

variable {text text' : String} {headings headings' : List String}

/-- What a text shows is what is extracted from it. -/
theorem Shows.reports (shows : Shows text headings) : reports text = headings := by
  obtain ⟨rows, rfl, flat, kept⟩ := shows
  rw [Golden.reports, lines_textOf flat, List.filter_append, kept]
  simp [isReport, holdsLocation]

/-- Nothing shows nothing. -/
theorem shows_empty : Shows "" [] := ⟨[], rfl, List.forall_mem_nil _, rfl⟩

/-- Two texts show what each of them shows. -/
theorem Shows.append (first : Shows text headings) (second : Shows text' headings') :
    Shows (text ++ text') (headings ++ headings') := by
  obtain ⟨rows, rfl, flat, kept⟩ := first
  obtain ⟨rows', rfl, flat', kept'⟩ := second
  refine ⟨rows ++ rows', ?_, List.forall_mem_append.mpr ⟨flat, flat'⟩, ?_⟩
  · rw [textOf, textOf, textOf, List.map_append, String.join_append]
  · rw [List.filter_append, kept, kept']

/-- Joined texts show what each of them shows, in order. -/
theorem shows_join {texts : List String} {each : List (List String)}
    (shows : List.Forall₂ Shows texts each) : Shows (String.join texts) each.flatten := by
  induction shows with
  | nil => exact shows_empty
  | cons first _ inductionHypothesis =>
    rw [String.join_cons, List.flatten_cons]
    exact first.append inductionHypothesis

/-- Joined texts that show one heading each show these headings. -/
theorem shows_map {α : Type} {values : List α} {text heading : α → String}
    (each : ∀ value ∈ values, Shows (text value) [heading value]) :
    Shows (String.join (values.map text)) (values.map heading) := by
  induction values with
  | nil => exact shows_empty
  | cons value values inductionHypothesis =>
    obtain ⟨first, others⟩ := List.forall_mem_cons.mp each
    rw [List.map_cons, String.join_cons]
    exact first.append (inductionHypothesis others)

/-! ## The shape of a heading -/

/-- A heading: the name of a source, a place in it, and what is said about the place. -/
def heading (name : String) (place : Position) (saying : String) : String :=
  s!"{name}:{place.render}: {saying}"

/-- A name with which a line can start: it has no line end in it and does not start with a blank or a
tab. -/
structure StartsLine (name : String) : Prop where
  flat : Flat name
  blank : name.toList.head? ≠ some ' '
  tab : name.toList.head? ≠ some '\t'

/-- A positive number is written in digits. -/
theorem toList_of_pos {number : Int} (positive : 1 ≤ number) :
    (toString number).toList ≠ [] ∧ ∀ c ∈ (toString number).toList, c.isDigit = true := by
  obtain ⟨value, rfl⟩ := Int.eq_ofNat_of_zero_le (Int.le_of_lt positive)
  have written : (toString (value : Int)).toList = Nat.toDigits 10 value := Nat.toList_repr
  rw [written]
  exact ⟨Nat.toDigits_ne_nil, fun c member =>
    Nat.isDigit_of_mem_toDigits (by decide) (by decide) member⟩

section Headings

variable {name : String} {place : Position} (line : 1 ≤ place.line) (column : 1 ≤ place.column)

include line column

/-- A heading is recognized as a report, whatever is said in it. -/
theorem isReport_heading (starts : StartsLine name) (saying : String) :
    isReport (heading name place saying).toList = true := by
  have shape : (heading name place saying).toList = name.toList ++ ':' ::
      ((toString place.line).toList ++ ':' :: ((toString place.column).toList ++
        ':' :: ' ' :: saying.toList)) := by
    simp [heading, Position.render, toString]
  -- A line starts with its name, or with the colon if there is none.
  have margin {c : Char} (other : ':' ≠ c) (first : name.toList.head? ≠ some c) (rest : List Char) :
      (name.toList ++ ':' :: rest).head? ≠ some c := by
    cases letters : name.toList with
    | nil => simpa using other
    | cons d letters' => simpa [letters] using first
  obtain ⟨some, digits⟩ := toList_of_pos line
  obtain ⟨some', digits'⟩ := toList_of_pos column
  rw [shape, isReport_iff]
  exact ⟨margin (by decide) starts.blank _, margin (by decide) starts.tab _, name.toList, _, rfl,
    _, _, saying.toList, some, some', digits, digits', rfl⟩

/-- A heading with a name and a message without line ends has none. -/
theorem flat_heading (flat : Flat name) {saying : String} (said : Flat saying) :
    Flat (heading name place saying) := by
  have number {number : Int} (positive : 1 ≤ number) : Flat (toString number) := fun member =>
    absurd ((toList_of_pos positive).2 '\n' member) (by decide)
  have rendered : Flat place.render := by
    simp only [Position.render, flat_append]
    exact ⟨⟨number line, flat_ofList (by decide)⟩, number column⟩
  simp only [heading, flat_append]
  exact ⟨⟨⟨⟨flat, flat_ofList (by decide)⟩, rendered⟩, flat_ofList (by decide)⟩, said⟩

/-- A heading on a line of its own shows itself. -/
theorem shows_heading (starts : StartsLine name) {saying : String} (said : Flat saying) :
    Shows (heading name place saying ++ "\n") [heading name place saying] := by
  refine ⟨[heading name place saying], by simp [textOf], ?_, ?_⟩
  · exact List.forall_mem_singleton.mpr (flat_heading line column starts.flat said)
  · simp [isReport_heading line column starts]

end Headings

end Golden

open Golden

/-! ## Reports -/

namespace Reporter

variable {reporter : Reporter}

/-- The name that is reported for a token. -/
def nameOf (reporter : Reporter) (tok : Token) : String :=
  ((reporter.file? tok.file).map SourceFile.name).getD ""

/-- A quoted line is a single line. -/
theorem flat_quoted {line : List Char} (flat : '\n' ∉ line) : Flat (quoted line) := by
  have sublist := (List.dropWhile_sublist (l := line.reverse) (· == '\r')).reverse
  rw [List.reverse_reverse] at sublist
  exact flat_ofList fun member => flat (sublist.mem member)

/-- Nothing that is echoed is taken for a heading, since it does not start at the margin. -/
theorem shows_excerpt (uncolored : reporter.colored = false) (file line column length : Int) :
    Shows (reporter.excerpt file line column length) [] := by
  unfold excerpt
  split
  · exact shows_empty
  split
  · exact shows_empty
  next text found =>
  obtain ⟨source, -, shown⟩ := Option.bind_eq_some_iff.mp found
  have echo : Flat (quoted text) := flat_quoted (newline_notMem_line shown)
  have pad : Flat (String.ofList (padding text column)) := by
    apply flat_ofList
    simp only [padding, List.mem_map, not_exists, not_and]
    intro c _ same
    split at same <;> exact absurd same (by decide)
  have mark : Flat (String.ofList (marker length)) := by
    apply flat_ofList
    simp [marker]
  have margin : Flat "  " := flat_ofList (by decide)
  have indented (behind : String) : isReport ("  " ++ behind).toList = false := by
    simp [isReport]
  refine ⟨["  " ++ quoted text, "  " ++ (String.ofList (padding text column) ++
    String.ofList (marker length))], ?_, ?_, ?_⟩
  · apply String.toList_injective
    simp [textOf, styled, uncolored, quoted, toString]
  · simp [echo, pad, mark, margin]
  · simp only [List.filter_cons, indented, Bool.false_eq_true, if_false, List.filter_nil]

/-- A report shows its heading and nothing else. -/
theorem shows_report (uncolored : reporter.colored = false) (style : Style) {label : String}
    {tok : Token} {place : Position} {message suffix : String}
    (starts : StartsLine (reporter.nameOf tok)) (line : 1 ≤ place.line) (column : 1 ≤ place.column)
    (said : Flat (label ++ " " ++ message ++ suffix)) :
    Shows (reporter.report style label tok place message suffix)
      [heading (reporter.nameOf tok) place (label ++ " " ++ message ++ suffix)] := by
  have text : reporter.report style label tok place message suffix =
      heading (reporter.nameOf tok) place (label ++ " " ++ message ++ suffix) ++ "\n" ++
        reporter.excerpt tok.file place.line place.column tok.length := by
    simp [report, heading, nameOf, styled, uncolored, String.append_assoc, toString]
  rw [text]
  exact (shows_heading line column starts said).append (shows_excerpt uncolored ..)

end Reporter

/-! ## The headings of a source -/

namespace Analysis

/-- The headings of the warnings on a source. -/
def warningHeadings (name : Token → String) (analysis : Analysis) : List String :=
  analysis.notices.map fun notice =>
    heading (name notice.token) notice.token.start
      s!"warning: {notice.remark.message} [-W{notice.remark.warning.name}]"

/-- The headings on what is wrong with a source, with a word in front of the message. -/
def errorHeadings (name : Token → String) (label : String) (analysis : Analysis) : List String :=
  (analysis.fault?.toList.map fun fault =>
      heading (name fault.token) fault.token.start (label ++ fault.message)) ++
    analysis.diagnostics.map fun diagnostic =>
      heading (name diagnostic.token) diagnostic.position (label ++ diagnostic.message)

/-- A token can be reported on: its places exist, and a line can start with its name. -/
structure Reportable (name : Token → String) (tok : Token) : Prop where
  line : 1 ≤ tok.line
  first : 1 ≤ tok.firstColumn
  last : 1 ≤ tok.column
  starts : StartsLine (name tok)

variable {analysis : Analysis} {reporter : Reporter}

/-- A diagnostic stands at the start or the end of its token, so its place exists if the token can
be reported on. -/
theorem Reportable.position {name : Token → String} {diagnostic : Diagnostic}
    (reportable : Reportable name diagnostic.token)
    (position : diagnostic.position = diagnostic.token.start ∨
      diagnostic.position = diagnostic.token.finish) :
    1 ≤ diagnostic.position.line ∧ 1 ≤ diagnostic.position.column := by
  obtain same | same := position
  · rw [same]
    exact ⟨reportable.line, reportable.first⟩
  · rw [same]
    exact ⟨reportable.line, reportable.last⟩

/-- The warnings on a source show their headings. -/
theorem shows_notices (uncolored : reporter.colored = false) (flat : analysis.SaysFlat)
    (anchored : analysis.Anchored (Reportable reporter.nameOf)) :
    Shows (reporter.notices analysis.notices) (analysis.warningHeadings reporter.nameOf) := by
  have named (warning : Warning) : Flat warning.name := by
    cases warning <;> exact flat_ofList (by decide)
  apply shows_map
  intro notice found
  have reportable := anchored.notices notice found
  have saying : s!"warning: {notice.remark.message} [-W{notice.remark.warning.name}]" =
      "warning:" ++ " " ++ notice.remark.message ++ s!" [-W{notice.remark.warning.name}]" := by
    apply String.toList_injective
    simp [toString]
  rw [saying]
  apply Reporter.shows_report uncolored .warning reportable.starts reportable.line reportable.first
  rw [← saying]
  simp only [toString, flat_append, flat.notices notice found, named, and_true]
  and_intros <;> exact flat_ofList (by decide)

/-- Whatever is wrong with a source shows its headings, if every single finding is printed such that it
does. -/
theorem shows_findings {name : Token → String} {label : String}
    (print : Token → Position → String → String)
    (each : ∀ {tok : Token} {place : Position} {message : String}, StartsLine (name tok) →
      1 ≤ place.line → 1 ≤ place.column → Flat message →
      Shows (print tok place message) [heading (name tok) place (label ++ message)])
    (flat : analysis.SaysFlat) (anchored : analysis.Anchored (Reportable name)) :
    Shows (String.join
        ((analysis.fault?.toList.map fun fault => print fault.token fault.token.start fault.message) ++
          analysis.diagnostics.map fun diagnostic =>
            print diagnostic.token diagnostic.position diagnostic.message))
      (analysis.errorHeadings name label) := by
  rw [String.join_append]
  apply Shows.append
  · apply shows_map
    intro fault member
    have found := Option.mem_toList.mp member
    have reportable := anchored.fault fault found
    exact each reportable.starts reportable.line reportable.first (flat.fault fault found)
  · apply shows_map
    intro diagnostic member
    obtain ⟨reportable, position⟩ := anchored.diagnostics diagnostic member
    obtain ⟨line, column⟩ := reportable.position position
    exact each reportable.starts line column (flat.diagnostics diagnostic member)

/-- Without colours the errors of an analysis show their headings and nothing else. -/
theorem shows_errors (uncolored : reporter.colored = false) (flat : analysis.SaysFlat)
    (anchored : analysis.Anchored (Reportable reporter.nameOf)) :
    Shows (String.join (reporter.errors analysis))
      (analysis.errorHeadings reporter.nameOf "error: ") := by
  apply shows_findings reporter.error _ flat anchored
  intro tok place message starts line column said
  have saying : "error: " ++ message = "error:" ++ " " ++ message ++ "" := by
    apply String.toList_injective
    simp
  rw [saying]
  apply Reporter.shows_report uncolored .error starts line column
  rw [← saying, flat_append]
  exact ⟨flat_ofList (by decide), said⟩

/-- In the plain way, headings are printed without a name and without a word in front of the
message. -/
theorem shows_lines (flat : analysis.SaysFlat)
    (anchored : analysis.Anchored (Reportable fun _ => "")) :
    Shows (String.join (analysis.lines.map (· ++ "\n")))
      (analysis.errorHeadings (fun _ => "") "") := by
  rw [Analysis.lines, List.map_append, List.map_map, List.map_map]
  apply shows_findings (fun _ place message => s!":{place.render}: {message}" ++ "\n") _ flat anchored
  intro tok place message starts line column said
  have text : s!":{place.render}: {message}" = heading "" place ("" ++ message) := by
    simp [heading, toString]
  rw [text]
  apply shows_heading line column starts
  rwa [String.empty_append]

/-- Headings depend on the names of the tokens that something is said about. -/
theorem warningHeadings_congr {name name' : Token → String}
    (same : analysis.Anchored fun tok => name tok = name' tok) :
    analysis.warningHeadings name = analysis.warningHeadings name' := by
  unfold warningHeadings
  apply List.map_congr_left
  intro notice member
  rw [same.notices notice member]

/-- Headings depend on the names of the tokens they are about only. -/
theorem errorHeadings_congr {name name' : Token → String}
    (same : analysis.Anchored fun tok => name tok = name' tok) (label : String) :
    analysis.errorHeadings name label = analysis.errorHeadings name' label := by
  unfold errorHeadings
  congr 1
  · apply List.map_congr_left
    intro fault member
    rw [same.fault fault (Option.mem_toList.mp member)]
  · apply List.map_congr_left
    intro diagnostic member
    rw [(same.diagnostics diagnostic member).1]

/-- What is found in a source can be reported on, under all names with which a line can start. -/
theorem ofSource_reportable (settings : Settings) (index : Int) (source : SourceFile)
    {name : Token → String} (starts : ∀ tok, StartsLine (name tok)) :
    (ofSource settings index source.content).Anchored (Reportable name) := by
  apply (ofSource_points settings index source).imp
  intro tok points
  refine ⟨?_, points.first, points.last, starts tok⟩
  obtain ⟨line, found⟩ := points.line
  unfold SourceFile.line? at found
  split at found
  · cases found
  · omega

end Analysis

/-- A line can start with no name at all. -/
theorem Golden.startsLine_empty : StartsLine "" :=
  ⟨flat_ofList (by decide), by decide, by decide⟩

/-- If lines can start with the names of all files, they can start with the name for any token. -/
theorem Reporter.startsLine_nameOf {reporter : Reporter}
    (each : ∀ source ∈ reporter.files, StartsLine source.name) (tok : Token) :
    StartsLine (reporter.nameOf tok) := by
  unfold nameOf
  cases found : reporter.file? tok.file with
  | none => exact startsLine_empty
  | some source =>
    unfold file? at found
    split at found
    · cases found
    · exact each source (List.mem_of_getElem? found)

/-! ## The headings of a run -/

/-- The name of the source that a token belongs to, by its index. -/
def SourceFile.nameIn (sources : List SourceFile) (tok : Token) : String :=
  (sources[tok.file.toNat]?.map SourceFile.name).getD ""

/-- A reporter that knows a source and the ones before it names their tokens as the run does. -/
theorem Reporter.nameOf_eq_nameIn {sources : List SourceFile} {index : Nat} {source : SourceFile}
    (found : sources[index]? = some source) (colored : Bool) {tok : Token}
    (attributed : tok.file = 0 ∨ tok.file = index) :
    Reporter.nameOf { files := sources.take index ++ [source], colored } tok =
      SourceFile.nameIn sources tok := by
  obtain ⟨inside, rfl⟩ := List.getElem?_eq_some_iff.mp found
  have inRange : ¬ tok.file < 0 := by omega
  have bound : tok.file.toNat < index + 1 := by omega
  simp only [nameOf, file?, inRange, if_false, List.take_append_getElem, SourceFile.nameIn,
    List.getElem?_take_of_lt bound]

namespace Session

variable {options : CompileOptions}

/-- Without colours, listings and progress lines, a source shows its headings. -/
theorem shows_analysisOutput (quiet : options.verbose = false) (uncolored : options.colored = false)
    (unlisted : options.tokens = false ∧ options.tree = false ∧ options.symbols = false)
    (settings : Settings) (index : Int) {reporter : Reporter}
    (same : reporter.colored = options.colored)
    (each : ∀ source ∈ reporter.files, StartsLine source.name) (source : SourceFile) :
    let analysis := Analysis.ofSource settings index source.content
    let printed := analysisOutput options reporter source analysis
    Shows printed.stdout (if options.plain then analysis.errorHeadings (fun _ => "") "" else []) ∧
      Shows printed.stderr (analysis.warningHeadings reporter.nameOf ++
        if options.plain then [] else analysis.errorHeadings reporter.nameOf "error: ") := by
  intro analysis printed
  have flat : analysis.SaysFlat := Analysis.ofSource_saysFlat settings index source
  have reportable : analysis.Anchored (Analysis.Reportable reporter.nameOf) :=
    Analysis.ofSource_reportable settings index source (Reporter.startsLine_nameOf each)
  have nameless : analysis.Anchored (Analysis.Reportable fun _ => "") :=
    Analysis.ofSource_reportable settings index source fun _ => startsLine_empty
  have nothing : listings options source analysis = "" := by
    cases analysis <;> simp [listings, unlisted]
  have warned := Analysis.shows_notices (same.trans uncolored) flat reportable
  constructor
  · rw [stdout_analysisOutput quiet, nothing, String.empty_append]
    split
    · exact Analysis.shows_lines flat nameless
    · exact shows_empty
  · rw [stderr_analysisOutput]
    apply warned.append
    split
    · exact shows_empty
    · exact Analysis.shows_errors (same.trans uncolored) flat reportable

variable {settings : Settings} {tree : FileTree} {paths : List String}

/-- Where all files can be read, each is compiled behind the sources before it. -/
theorem eachBehind_of_readable (readable : ∀ path ∈ paths, ∃ bytes, tree.read path = .ok bytes) :
    eachBehind tree (outputBehind options settings tree) paths =
      (SourceFile.atAll tree paths).mapIdx fun index source =>
        analysisOutput options
          { files := (SourceFile.atAll tree paths).take index ++ [source], colored := options.colored }
          source (Analysis.ofSource settings index source.content) := by
  choose! contents read using readable
  have all (some : List String) (among : some ⊆ paths) : SourceFile.atAll tree some =
      some.map fun path => ⟨path, Text.decode (contents path)⟩ := by
    apply List.filterMap_eq_map_iff_forall_eq_some.mpr
    intro path member
    rw [SourceFile.at?, read path (among member)]
  apply List.ext_getElem?
  intro index
  rw [eachBehind, all paths (List.Subset.refl paths), List.getElem?_mapIdx, List.getElem?_mapIdx,
    List.getElem?_map]
  cases found : paths[index]? with
  | none => rfl
  | some path =>
    have inside := (List.getElem?_eq_some_iff.mp found).1
    simp only [Option.map_some, outputBehind, read path (List.mem_of_getElem? found),
      all _ (List.take_subset index paths), List.map_take, List.length_take, List.length_map,
      Nat.min_eq_left (Nat.le_of_lt inside)]

/-- Two lists made from one, value by value. -/
theorem forall₂_mapIdx {α β γ : Type} {related : β → γ → Prop} {values : List α}
    {first : Nat → α → β} {second : Nat → α → γ}
    (each : ∀ index value, values[index]? = some value →
      related (first index value) (second index value)) :
    List.Forall₂ related (values.mapIdx first) (values.mapIdx second) := by
  apply List.forall₂_iff_get.mpr
  refine ⟨by simp, fun index inside inside' => ?_⟩
  simp only [List.get_eq_getElem, List.getElem_mapIdx]
  exact each index _ (List.getElem?_eq_getElem _)

/-- A session shows the headings of its sources, in their order. -/
theorem shows_compileAll (quiet : options.verbose = false) (uncolored : options.colored = false)
    (unlisted : options.tokens = false ∧ options.tree = false ∧ options.symbols = false)
    (readable : ∀ path ∈ paths, ∃ bytes, tree.read path = .ok bytes)
    (starts : ∀ path ∈ paths, StartsLine path) :
    let sources := SourceFile.atAll tree paths
    let found := sources.mapIdx fun index source =>
      Analysis.ofSource settings index source.content
    Shows (compileAll options settings tree paths).output.stdout
        (found.flatMap fun analysis =>
          if options.plain then analysis.errorHeadings (fun _ => "") "" else []) ∧
      Shows (compileAll options settings tree paths).output.stderr
        (found.flatMap fun analysis =>
          analysis.warningHeadings (SourceFile.nameIn sources) ++
            if options.plain then []
            else analysis.errorHeadings (SourceFile.nameIn sources) "error: ") := by
  intro sources found
  have named : ∀ source ∈ sources, StartsLine source.name := by
    intro source member
    obtain ⟨path, given, at?⟩ := List.mem_filterMap.mp member
    rw [SourceFile.name_of_at? at?]
    exact starts path given
  have each : List.Forall₂ (fun (output : Output) (analysis : Analysis) =>
      Shows output.stdout (if options.plain then analysis.errorHeadings (fun _ => "") "" else []) ∧
        Shows output.stderr
          (analysis.warningHeadings (SourceFile.nameIn sources) ++
            if options.plain then []
            else analysis.errorHeadings (SourceFile.nameIn sources) "error: "))
      (eachBehind tree (outputBehind options settings tree) paths) found := by
    rw [eachBehind_of_readable readable]
    apply forall₂_mapIdx
    intro index source at?
    let reporter : Reporter :=
      { files := sources.take index ++ [source], colored := options.colored }
    have known : ∀ source ∈ reporter.files, StartsLine source.name :=
      List.forall_mem_append.mpr ⟨fun other member => named other (List.mem_of_mem_take member),
        List.forall_mem_singleton.mpr (named source (List.mem_of_getElem? at?))⟩
    have same : (Analysis.ofSource settings index source.content).Anchored
        fun tok => reporter.nameOf tok = SourceFile.nameIn sources tok :=
      (Analysis.ofSource_attributed settings index source).imp fun _ attributed =>
        Reporter.nameOf_eq_nameIn at? options.colored attributed
    rw [← Analysis.warningHeadings_congr same, ← Analysis.errorHeadings_congr same]
    exact shows_analysisOutput quiet uncolored unlisted settings index rfl
      known source
  rw [compileAll_output, List.flatMap_def, List.flatMap_def]
  constructor
  · apply shows_join
    rw [List.forall₂_map_left_iff, List.forall₂_map_right_iff]
    exact each.imp fun _ _ => And.left
  · apply shows_join
    rw [List.forall₂_map_left_iff, List.forall₂_map_right_iff]
    exact each.imp fun _ _ => And.right

end Session

namespace Command

variable {tree : FileTree} {flags : FlagSet} {settings : Settings} {mode : ColorMode}

/-- The golden runner recognises exactly what is reported. Take a run without colours, stages and
listings on files that can be read, whatever is in them, under names with which a line can start.
Among the lines of what it prints, the standard output before the error stream, those that are taken
for reports are the headings of all reports, in the order in which they are printed: for each file
its warnings and then what is wrong with it, or, in the plain way, first what is wrong with all files
and then all warnings.

Proof: file by file, messages are single lines and the places in them exist, so a heading stays one line
and holds its location; and everything else that is printed starts with blanks. -/
theorem reports_recognised (years : String) {arguments : List String}
    (accepted : app.request arguments = .action flags)
    (configured : configure FileSettings.ofText tree flags = .ok (settings, mode)) (uncolored : mode ≠ .always)
    (quiet : flags.isOn "verbose" = false)
    (unlisted : ∀ listing ∈ ["dump-tokens", "dump-ast", "dump-symbols"], flags.isOn listing = false)
    (readable : ∀ path ∈ flags.args, ∃ bytes, tree.read path = .ok bytes)
    (starts : ∀ path ∈ flags.args, StartsLine path) :
    let printed := (run years tree arguments).output
    let sources := SourceFile.atAll tree flags.args
    let name := SourceFile.nameIn sources
    let found := sources.mapIdx fun index source =>
      Analysis.ofSource settings index source.content
    Golden.reports (printed.stdout ++ printed.stderr) =
      if flags.isOn "plain" then
        found.flatMap (fun analysis => analysis.errorHeadings (fun _ => "") "") ++
          found.flatMap fun analysis => analysis.warningHeadings name
      else
        found.flatMap fun analysis => analysis.warningHeadings name ++
          analysis.errorHeadings name "error: " := by
  intro printed sources name found
  have colorless : (compileOptions flags mode).colored = false := decide_eq_false uncolored
  have ran : run years tree arguments = action tree flags := by simp only [run, accepted]
  by_cases some : flags.args = []
  · -- The one line that is printed without files says so, and has no place.
    have refused : printed = .err "winzigc: error: no input files specified.\n" := by
      simp only [printed, ran, action, configured, some, List.isEmpty_nil, if_true, usageError,
        Reporter.plainError, Reporter.styled, colorless]
      rfl
    have none : found = [] := by simp [found, sources, SourceFile.atAll, some]
    have unplaced : Golden.reports ("" ++ "winzigc: error: no input files specified.\n") = [] := by
      decide
    rw [none]
    simp only [refused, Output.err, unplaced, List.flatMap_nil, List.append_nil, ite_self]
  · have silent : (compileOptions flags mode).verbose = false := quiet
    have session : printed =
        (Session.compileAll (compileOptions flags mode) settings tree flags.args).output := by
      simp only [printed, ran, action, configured, List.isEmpty_iff, some, if_false, silent]
      exact Output.append_empty _
    simp only [List.forall_mem_cons] at unlisted
    obtain ⟨tokens, tree', symbols, -⟩ := unlisted
    obtain ⟨stdout, stderr⟩ := Session.shows_compileAll silent colorless ⟨tokens, tree', symbols⟩
      readable starts
    have plain : (compileOptions flags mode).plain = flags.isOn "plain" := rfl
    rw [session, (stdout.append stderr).reports, plain]
    cases flags.isOn "plain" with
    | false => simp [found, sources, name]
    | true => simp [found, sources, name]

/-- A file whose second line starts like a report, and a file that is closed under another name. -/
def echoingFiles : FileTree where
  entries := [(["a.wz"], .file "program p\n:1:2: error: boo".toUTF8.toList),
    (["b.wz"], .file "program p: begin d := 1 end q.".toUTF8.toList)]

/-- The echoed line is not recognised, and both headings are. -/
theorem reports_recognised_echoingFiles :
    let printed := (run "2025" echoingFiles ["a.wz", "b.wz"]).output
    Golden.reports (printed.stdout ++ printed.stderr) =
      ["a.wz:2:2: error: Expected 'begin'. Found '1'.",
        "b.wz:1:29: warning: Program 'p' closed as 'q' [-Wprogram-name]"] := by
  let flags := (app.flags.parse ["a.wz", "b.wz"]).1
  have accepted : app.request ["a.wz", "b.wz"] = .action flags := rfl
  have configured : configure FileSettings.ofText echoingFiles flags = .ok ({}, .auto) :=
    configure_of_unset (by decide) (by decide) (by decide +kernel)
  have paths : flags.args = ["a.wz", "b.wz"] := rfl
  have readable : ∀ path ∈ flags.args, ∃ bytes, echoingFiles.read path = .ok bytes := by
    simp only [paths, List.forall_mem_cons]
    exact ⟨⟨_, rfl⟩, ⟨_, rfl⟩, by simp⟩
  have starts : ∀ path ∈ flags.args, StartsLine path := by
    simp only [paths, List.forall_mem_cons]
    exact ⟨⟨by decide, by decide, by decide⟩, ⟨by decide, by decide, by decide⟩, by simp⟩
  have recognised := reports_recognised "2025" accepted configured (by decide) (by decide)
    (by decide) readable starts
  exact recognised.trans (by decide +kernel)

end Command

end WinZig
