import WinZig.Proofs.Compiling.Reports
import WinZig.Proofs.Scanning.Respacing
import WinZig.Proofs.Typing.Anchors

/-!
# What reports underline

A report quotes a line of the source and puts a marker below it. The marker starts below the column
that the heading names, however many tabs stand before it, and has one sign for each character of
the blamed token. So it covers the columns of the token if the report is placed where the token
starts.

Faults and warnings are placed there. If the end of the stream is blamed, which has no characters,
the marker is a single sign at most one column behind the end of the line. Complaints are placed
there as well, but for those about a character literal: their marker starts at the closing quote.
-/

namespace WinZig

/-! ## Excerpts -/

/-- A line as it is shown: without the carriage returns at its end. -/
structure IsShown (line shown : List Char) : Prop where
  front : ∃ count, line = shown ++ List.replicate count '\r'
  last : shown.getLast? ≠ some '\r'

/-- A marker below the columns of a line, behind a padding that copies the tabs of the line. -/
structure Underlines (text : List Char) (first last : Int) (padding marker : List Char) : Prop where
  before : (padding.length : Int) = first - 1
  tabs : ∀ index < padding.length,
    padding[index]? = some (if text[index]? = some '\t' then '\t' else ' ')
  width : (marker.length : Int) = last - first + 1
  signs : marker = '^' :: List.replicate (last - first).toNat '~'

/-- A report quotes a line of a source and underlines its columns from the first to the last. -/
def Underlined (source : SourceFile) (number first last : Int) (heading report : String) : Prop :=
  ∃ line shown padding marker, source.line? number = some line ∧ IsShown line shown ∧
    Underlines line first last padding marker ∧
    report = s!"{heading}\n" ++
      s!"  {String.ofList shown}\n  {String.ofList padding}{String.ofList marker}\n"

/-- What is quoted of a line is the line as it is shown. -/
theorem isShown_dropEndWhile (line : List Char) :
    IsShown line (Text.dropEndWhile (· == '\r') line) := by
  have whole := List.takeWhile_append_dropWhile (p := (· == '\r')) (l := line.reverse)
  have returns : ∀ c ∈ line.reverse.takeWhile (· == '\r'), c = '\r' := fun c member => by
    simpa using List.mem_takeWhile_imp member
  constructor
  case front =>
    refine ⟨(line.reverse.takeWhile (· == '\r')).length, ?_⟩
    rw [← List.reverse_replicate, ← List.eq_replicate_of_mem returns, Text.dropEndWhile,
      ← List.reverse_append, whole, List.reverse_reverse]
  case last =>
    have stops := List.head?_dropWhile_not (· == '\r') line.reverse
    rw [Text.dropEndWhile, List.getLast?_reverse]
    intro last
    rw [last] at stops
    simp at stops

/-- What is no carriage return is shown. -/
theorem IsShown.lt_length {text shown : List Char} {index : Nat} {c : Char}
    (isShown : IsShown text shown) (stands : text[index]? = some c) (other : c ≠ '\r') :
    index < shown.length := by
  obtain ⟨count, rfl⟩ := isShown.front
  by_contra outside
  rw [List.getElem?_append_right (by omega)] at stands
  exact other (List.eq_of_mem_replicate (List.mem_of_getElem? stands))

/-- A line is shown in one way. -/
theorem IsShown.unique {text shown shown' : List Char} (one : IsShown text shown)
    (other : IsShown text shown') : shown = shown' := by
  have bounded {shown shown' : List Char} (one : IsShown text shown) (other : IsShown text shown') :
      shown'.length ≤ shown.length := by
    by_contra longer
    obtain ⟨count, same⟩ := other.front
    have inside : shown'.length - 1 < shown'.length := by omega
    have stands : text[shown'.length - 1]? = some (shown'.get ⟨_, inside⟩) := by
      rw [same, List.getElem?_append_left inside, List.getElem?_eq_getElem inside]
      rfl
    have last : shown'.getLast? = some (shown'.get ⟨_, inside⟩) := by
      rw [List.getLast?_eq_getElem?, List.getElem?_eq_getElem inside]
      rfl
    have other' : shown'.get ⟨_, inside⟩ ≠ '\r' := fun same => other.last (same ▸ last)
    have below := one.lt_length stands other'
    omega
  obtain ⟨count, rfl⟩ := one.front
  obtain ⟨count', same⟩ := other.front
  have length := Nat.le_antisymm (bounded other one) (bounded one other)
  exact (List.append_inj same length).1

/-- There is no marker in a padding. -/
theorem Underlines.no_sign {text padding marker : List Char} {first last : Int}
    (underlines : Underlines text first last padding marker) : '^' ∉ padding := by
  intro member
  obtain ⟨index, below, stands⟩ := List.getElem_of_mem member
  have blank := underlines.tabs index below
  rw [List.getElem?_eq_getElem below, stands] at blank
  split at blank <;> simp at blank

/-- A report underlines one range of columns only: the marker starts at the first sign behind the
quoted line, and ends where the report does. -/
theorem Underlined.unique {source : SourceFile} {number first last first' last' : Int}
    {heading report : String} (one : Underlined source number first last heading report)
    (other : Underlined source number first' last' heading report) :
    first = first' ∧ last = last' := by
  obtain ⟨text, shown, padding, marker, found, isShown, underlines, rfl⟩ := one
  obtain ⟨text', shown', padding', marker', found', isShown', underlines', same⟩ := other
  obtain rfl := Option.some.inj (found.symm.trans found')
  obtain rfl := isShown.unique isShown'
  have closed : padding ++ marker ++ ['\n'] = padding' ++ marker' ++ ['\n'] := by
    simpa [toString] using congrArg String.toList same
  have rest := List.append_cancel_right closed
  have cut {padding : List Char} (others : List Char) (none : '^' ∉ padding) :
      (padding ++ '^' :: others).takeWhile (· != '^') = padding := by
    have passed : ∀ c ∈ padding, (c != '^') = true := by
      intro c member
      simpa using ne_of_mem_of_not_mem member none
    rw [List.takeWhile_append_of_pos passed]
    simp
  -- There is no sign in a padding, so it ends where the first sign stands.
  have signs := underlines.signs
  have signs' := underlines'.signs
  obtain rfl : padding = padding' := by
    calc
      padding = (padding ++ marker).takeWhile (· != '^') := by rw [signs, cut _ underlines.no_sign]
      _ = padding' := by rw [rest, signs', cut _ underlines'.no_sign]
  obtain rfl := List.append_cancel_left rest
  have before := underlines.before
  have before' := underlines'.before
  have width := underlines.width
  have width' := underlines'.width
  omega

/-- The padding and the marker of a report underline the columns of a token. -/
theorem underlines_marker {line : List Char} {column : Int} (length : Int) (first : 1 ≤ column)
    (inside : column ≤ line.length + 1) :
    Underlines line column (column + max 1 length - 1) (Reporter.padding line column)
      (Reporter.marker length) := by
  have before : (Reporter.padding line column).length = (column - 1).toNat := by
    simp only [Reporter.padding, List.length_map, List.length_take]
    omega
  constructor
  case before => omega
  case tabs =>
    intro index below
    rw [before] at below
    have known : index < line.length := by omega
    rw [Reporter.padding, List.getElem?_map, List.getElem?_take_of_lt below]
    simp [known]
  case width =>
    simp only [Reporter.marker, List.length_cons, List.length_replicate]
    omega
  case signs =>
    have same : (length - 1).toNat = (column + max 1 length - 1 - column).toNat := by omega
    rw [Reporter.marker, same]

/-- A report on a place in the only source underlines as many columns as its token has. -/
theorem Reporter.report_underlined {source : SourceFile} {tok : Token} (place : Position)
    {line : List Char} (style : Style) (label message suffix : String) (own : tok.file = 0)
    (found : source.line? place.line = some line) (first : 1 ≤ place.column)
    (inside : place.column ≤ line.length + 1) :
    Underlined source place.line place.column (place.column + max 1 tok.length - 1)
      s!"{source.name}:{place.line}:{place.column}: {label} {message}{suffix}"
      (report { files := [source], colored := false } style label tok place message suffix) := by
  refine ⟨line, _, _, _, found, isShown_dropEndWhile line,
    underlines_marker tok.length first inside, ?_⟩
  have file : file? { files := [source], colored := false } tok.file = some source := by
    simp [file?, own]
  have visible : ¬ place.column ≤ 0 := by omega
  simp [report, excerpt, file, found, visible, styled, Position.render, String.append_assoc,
    toString]

/-! ## Tokens that are reported on -/

/-- The token for the end of a stream: it has no characters, and stands at most one column behind
the end of its line. -/
structure Token.ClosesStream (source : SourceFile) (tok : Token) : Prop where
  kind : tok.kind = .endOfInput
  length : tok.length = 0
  first : 1 ≤ tok.column
  last : ∃ line shown, source.line? tok.line = some line ∧ IsShown line shown ∧
    tok.column ≤ shown.length + 1

/-- The token is a lexeme of a source, or the end of the stream of its lexemes. -/
def Token.IsOf (source : SourceFile) (tok : Token) : Prop :=
  tok.StandsIn source ∧ 0 < tok.length ∨ tok.ClosesStream source

/-- A report on a token, with a heading that says something: the columns of the token are
underlined, one if it has none. -/
structure Reported (source : SourceFile) (tok : Token) (saying report : String) : Prop where
  token : tok.IsOf source
  width : tok.column - tok.firstColumn + 1 = max 1 tok.length
  underlined : Underlined source tok.line tok.firstColumn tok.column
    s!"{source.name}:{tok.line}:{tok.firstColumn}: {saying}" report

/-- A lexeme ends within its line. -/
theorem Token.StandsIn.last_shown {source : SourceFile} {tok : Token} (stands : tok.StandsIn source)
    (nonempty : 0 < tok.length) :
    ∃ text, source.line? tok.line = some text ∧ tok.column ≤ text.length ∧
      text[tok.column.toNat - 1]? = tok.text.toList.getLast? := by
  obtain ⟨text, found, shown⟩ := stands.shown
  have first := stands.first
  have last := stands.last
  have length := stands.length
  have start : tok.firstColumn = tok.column - tok.length + 1 := if_neg (by omega)
  have inside : min tok.column.toNat text.length - (tok.firstColumn.toNat - 1) =
      tok.text.toList.length := by
    rw [← shown, columns, List.length_drop, List.length_take]
  have bound : tok.column.toNat ≤ text.length := by omega
  refine ⟨text, found, by omega, ?_⟩
  rw [← shown, columns, List.getLast?_drop, if_neg (by simp only [List.length_take]; omega),
    List.getLast?_take, if_neg (by omega), List.getElem?_eq_getElem (by omega)]
  rfl

/-- The columns of a token that is reported on are columns of its line. -/
theorem Token.IsOf.shown {source : SourceFile} {tok : Token} (isOf : tok.IsOf source) :
    1 ≤ tok.firstColumn ∧ tok.column - tok.firstColumn + 1 = max 1 tok.length ∧
      ∃ text, source.line? tok.line = some text ∧ tok.column ≤ text.length + 1 := by
  rcases isOf with ⟨stands, nonempty⟩ | closes
  · obtain ⟨text, found, inside, -⟩ := stands.last_shown nonempty
    have start : tok.firstColumn = tok.column - tok.length + 1 := if_neg (by omega)
    exact ⟨stands.first, by omega, text, found, by omega⟩
  · obtain ⟨text, shown, found, isShown, inside⟩ := closes.last
    obtain ⟨count, rfl⟩ := isShown.front
    have start : tok.firstColumn = tok.column := if_pos closes.length
    have none := closes.length
    refine ⟨by rw [start]; exact closes.first, by omega, _, found, ?_⟩
    rw [List.length_append]
    omega

/-- A report on a token that is placed where the token starts underlines the token. -/
theorem Reporter.report_reported {source : SourceFile} {tok : Token} (style : Style)
    (label message suffix : String) (own : tok.file = 0) (isOf : tok.IsOf source) :
    Reported source tok s!"{label} {message}{suffix}"
      (report { files := [source], colored := false } style label tok tok.start message
        suffix) := by
  obtain ⟨first, width, text, found, inside⟩ := isOf.shown
  have last : tok.start.column + max 1 tok.length - 1 = tok.column := by
    simp only [Token.start]
    omega
  have underlined := report_underlined tok.start style label message suffix own found first
    (by simp only [Token.start]; omega)
  rw [last] at underlined
  exact ⟨isOf, width, by simpa [String.append_assoc, toString, Token.start] using underlined⟩

/-! ## Faults and warnings -/

namespace Scanner

variable (index : Int) (nested : Bool) (source : SourceFile)

/-- Whatever step is taken, a token that matters is a lexeme of the source. -/
theorem call_isOf (count : Nat) (matters : Matters ((ofSource index nested source).call count)) :
    ((ofSource index nested source).call count).token.IsOf source := by
  obtain ⟨shown, -, nonempty, -, -, -, -, -, -, length⟩ := next_shown matters
  have some : 0 < shown.length := List.length_pos_iff.mpr nonempty
  refine .inl ⟨call_standsIn index nested source count matters, ?_⟩
  rw [call, length]
  omega

/-- A step keeps the index of the source. -/
theorem next_file (scanner : Scanner) :
    scanner.next.1.token.file = scanner.file ∧ scanner.next.2.file = scanner.file := by
  have same : scanner.next =
      (scanner.next.1.within scanner.file, scanner.next.2.within scanner.file) :=
    next_within scanner.file scanner
  rw [same]
  exact ⟨rfl, rfl⟩

/-- Every token has the index of the source. -/
theorem call_file (scanner : Scanner) (count : Nat) :
    (scanner.call count).token.file = scanner.file := by
  have after : (scanner.after count).file = scanner.file := by
    induction count with
    | zero => rfl
    | succ count inductionHypothesis => rw [after_succ, (next_file _).2, inductionHypothesis]
  rw [call, (next_file _).1, after]

/-- Every token of a source is one of its lexemes. -/
theorem tokens_isOf : ∀ tok ∈ (ofSource index nested source).tokens, tok.IsOf source := by
  obtain ⟨count, -, -, -, handed, -⟩ := exists_stop (ofSource index nested source)
  rw [handed]
  intro tok member
  obtain ⟨taken, kept⟩ := List.mem_filter.mp member
  obtain ⟨earlier, -, rfl⟩ := List.mem_map.mp taken
  exact call_isOf index nested source earlier (.inr (by simpa using kept))

/-- The end of the stream of a source is at most one column behind the end of what is shown of its
line, since no token ends with a carriage return. -/
theorem stop_isOf :
    (Cursor.ofTokens (ofSource index nested source).tokens).stop.IsOf source := by
  cases found : (ofSource index nested source).tokens.getLast? with
  | none =>
    have stop : (Cursor.ofTokens (ofSource index nested source).tokens).stop =
        { line := 1, column := 1 } := by
      simp [Cursor.ofTokens, found]
    obtain ⟨line, first⟩ := exists_first_line source
    rw [stop]
    have shown := isShown_dropEndWhile line
    exact .inr ⟨rfl, rfl, by decide, line, _, first, shown, by dsimp only; omega⟩
  | some tok =>
    have stop : (Cursor.ofTokens (ofSource index nested source).tokens).stop =
        { file := tok.file, line := tok.line, column := tok.column + 1 } := by
      simp [Cursor.ofTokens, found]
    have member := List.mem_of_getLast? found
    obtain ⟨real, _, _, rule⟩ := tokens_kept _ tok member
    have solid := rule.ends real
    rw [stop]
    rcases tokens_isOf index nested source tok member with ⟨stands, nonempty⟩ | closes
    · obtain ⟨text, line, -, last⟩ := stands.last_shown nonempty
      have isShown := isShown_dropEndWhile text
      have begins := stands.first
      have ends := stands.last
      have written : tok.text.toList ≠ [] := by
        intro none
        rw [stands.length, none] at nonempty
        exact absurd nonempty (by decide)
      rw [List.getLast?_eq_some_getLast written] at last
      have other : tok.text.toList.getLast written ≠ '\r' := by
        intro same
        have gap : Rendering.isGap (tok.text.toList.getLast written) = false :=
          solid _ (List.getLast?_eq_some_getLast written)
        rw [same] at gap
        cases gap
      -- So the last character of the token is shown, and the end of the stream is next to it.
      have shown := isShown.lt_length last other
      exact .inr ⟨rfl, rfl, by dsimp only; omega, text, _, line, isShown, by dsimp only; omega⟩
    · exact absurd closes.kind (tokens_real _ tok member)

end Scanner

namespace Analysis

/-- What is found in a source is found at its lexemes or at the end of their stream. -/
theorem ofSource_isOf (settings : Settings) (index : Int) (source : SourceFile) :
    Anchored (Token.IsOf source) (ofSource settings index source.content) := by
  cases found : (Scanner.ofSource index (settings.feature .nestedComments) source).fault? with
  | some fault =>
    obtain ⟨count, -, -, -, -, last⟩ := Scanner.exists_stop (.ofSource index _ source)
    obtain ⟨cause, blamed, rfl⟩ := Option.map_eq_some_iff.mp (last.symm.trans found)
    rw [ofSource_of_fault found]
    constructor
    case fault =>
      rintro _ ⟨rfl⟩
      exact Scanner.call_isOf index _ source count (.inl (by simp [blamed]))
    case notices => simp [notices]
    case diagnostics => simp [diagnostics]
  | none =>
    rw [ofSource_of_sound found]
    apply (anchored_ofReply settings _).imp
    exact List.forall_mem_cons.mpr
      ⟨Scanner.stop_isOf index _ source, Scanner.tokens_isOf index _ source⟩

end Analysis

/-- Without colour, the report on a fault or a warning in the only source quotes the line of its
token and underlines exactly the columns of the token.

Proof: a token that is blamed is a lexeme of the source or the end of the stream. A lexeme lies
within its line, and the end of the stream is one column behind a lexeme that does not end with a
carriage return; so there are as many characters before the first column as the padding wants. -/
theorem Reporter.reports_underline (settings : Settings) (source : SourceFile) :
    let reporter : Reporter := { files := [source], colored := false }
    let analysis := Analysis.ofSource settings 0 source.content
    (∀ nested count fault, ((Scanner.ofSource 0 nested source).call count).fault? = some fault →
      Reported source fault.token s!"error: {fault.message}" (reporter.fault fault)) ∧
    (∀ fault ∈ analysis.fault?,
      Reported source fault.token s!"error: {fault.message}" (reporter.fault fault)) ∧
    ∀ notice ∈ analysis.notices,
      Reported source notice.token
        s!"warning: {notice.remark.message} [-W{notice.remark.warning.name}]"
        (reporter.notice notice) ∧
      ∀ shown : Warning → Bool, shown notice.remark.warning = true →
        reporter.warn shown notice.remark.warning notice.token notice.remark.message =
          reporter.notice notice := by
  have anchored := Analysis.ofSource_isOf settings 0 source
  have files := Analysis.ofSource_file settings source
  have blamed (fault : Fault) (own : fault.token.file = 0) (isOf : fault.token.IsOf source) :
      Reported source fault.token s!"error: {fault.message}"
        (Reporter.fault { files := [source], colored := false } fault) := by
    simpa [Reporter.fault, Reporter.error, toString] using
      report_reported .error "error:" fault.message "" own isOf
  refine ⟨?_, ?_, ?_⟩
  · intro nested count fault wrong
    obtain ⟨cause, found, rfl⟩ := Option.map_eq_some_iff.mp wrong
    exact blamed _ (Scanner.call_file _ count)
      (Scanner.call_isOf 0 nested source count (.inl (by simp [found])))
  · intro fault found
    exact blamed fault (files.fault fault found) (anchored.fault fault found)
  · intro notice member
    refine ⟨?_, fun shown visible => if_pos visible⟩
    have reported := report_reported .warning "warning:" notice.remark.message
      s!" [-W{notice.remark.warning.name}]" (files.notices notice member)
      (anchored.notices notice member)
    simpa [Reporter.notice, Reporter.warning, String.append_assoc, toString] using reported

/-- A tab, a number that is too wide, a carriage return, and no end. -/
def unfinished : SourceFile := ⟨"a.wz", "program p:\nbegin\n\tx := 5000000000;\r\n".toList⟩

/-- A text that is not closed, behind a tab and before a carriage return. -/
def unclosed : SourceFile := ⟨"b.wz", "\tx := \"ab\r\n".toList⟩

/-- The end of a stream, a number and a text are underlined. -/
theorem Reporter.reports_underline_unfinished :
    Reported unfinished { line := 3, column := 18 }
      "error: Expected 'end' to close 'begin'. Found 'end of input'."
      ("a.wz:3:18: error: Expected 'end' to close 'begin'. Found 'end of input'.\n" ++
        "  \tx := 5000000000;\n  \t                ^\n") ∧
    Reported unfinished
      { kind := .integer, text := "5000000000", line := 3, column := 16, length := 10 }
      "warning: Integer literal '5000000000' does not fit in 32 bits [-Woverflow]"
      ("a.wz:3:7: warning: Integer literal '5000000000' does not fit in 32 bits [-Woverflow]\n" ++
        "  \tx := 5000000000;\n  \t     ^~~~~~~~~~\n") ∧
    Reported unclosed { kind := .text, text := "\"ab\r", line := 1, column := 10, length := 4 }
      "error: Unterminated string literal"
      "b.wz:1:7: error: Unterminated string literal\n  \tx := \"ab\n  \t     ^~~~\n" := by
  obtain ⟨-, faults, notices⟩ := reports_underline { feature := fun _ => true } unfinished
  obtain ⟨steps, -, -⟩ := reports_underline { feature := fun _ => true } unclosed
  have missing := faults ⟨{ line := 3, column := 18 }, .unfilled .bodyEnd⟩ (by decide +kernel)
  have wide := notices
    ⟨{ kind := .integer, text := "5000000000", line := 3, column := 16, length := 10 },
      .wideInteger "5000000000"⟩ (by decide +kernel)
  have opened := steps true 5
    ⟨{ kind := .text, text := "\"ab\r", line := 1, column := 10, length := 4 }, .openText⟩
    (by decide)
  refine ⟨?_, ?_, ?_⟩
  · convert missing using 1 <;> decide
  · convert wide.1 using 1 <;> decide
  · convert opened using 1 <;> decide

/-! ## Complaints -/

/-- A complaint is made about a lexeme, and is placed where it starts, or ends if it is a character
literal. -/
theorem Analysis.diagnostics_placed (settings : Settings) (source : SourceFile) :
    ∀ diagnostic ∈ (ofSource settings 0 source.content).diagnostics,
      diagnostic.token ∈ (Scanner.ofSource 0 (settings.feature .nestedComments) source).tokens ∧
        diagnostic.Placed := by
  intro diagnostic member
  cases found : (Scanner.ofSource 0 (settings.feature .nestedComments) source).fault? with
  | some fault =>
    rw [ofSource_of_fault found] at member
    cases member
  | none =>
    rw [ofSource_of_sound found] at member
    have known := ((anchored_ofReply settings _).diagnostics diagnostic member).1
    cases run : Program.ofTokens settings
        (Scanner.ofSource 0 (settings.feature .nestedComments) source).tokens with
    | failed | crashed =>
      rw [run] at member
      cases member
    | ok program cursor =>
      rw [run] at member
      have derived := Program.derived_of_ofTokens (Scanner.tokens_real _) run
      have placed := Typing.check_placed (Grammar.program_anchored derived) diagnostic member
      rcases List.mem_cons.mp known with stop | known
      · exact absurd (stop ▸ Program.ofTokens_stops _ _) placed.real
      · exact ⟨known, placed⟩

/-- A report on a complaint underlines as many columns as its token has, from the place of the
complaint on. -/
theorem Reporter.error_underlined {source : SourceFile} {diagnostic : Diagnostic}
    (own : diagnostic.token.file = 0) (stands : diagnostic.token.StandsIn source)
    (nonempty : 0 < diagnostic.token.length) (placed : diagnostic.Placed) :
    Underlined source diagnostic.token.line diagnostic.position.column
      (diagnostic.position.column + diagnostic.token.length - 1)
      s!"{source.name}:{diagnostic.position.render}: error: {diagnostic.message}"
      (error { files := [source], colored := false } diagnostic.token diagnostic.position
        diagnostic.message) := by
  obtain ⟨text, found, inside, -⟩ := stands.last_shown nonempty
  have first := stands.first
  have last := stands.last
  have between : diagnostic.position.line = diagnostic.token.line ∧
      1 ≤ diagnostic.position.column ∧ diagnostic.position.column ≤ diagnostic.token.column := by
    rw [placed.position]
    split
    · exact ⟨rfl, by simp only [Token.finish]; omega, le_refl _⟩
    · exact ⟨rfl, first, last⟩
  obtain ⟨line, begins, ends⟩ := between
  have underlined := report_underlined diagnostic.position .error "error:" diagnostic.message "" own
    (line ▸ found) begins (by omega)
  rw [line, max_eq_right (by omega)] at underlined
  unfold error
  convert underlined using 1
  apply String.toList_inj.mp
  simp [Position.render, line, toString]

/-- Without colour, the report on a complaint about the only source underlines exactly the columns
of its token, unless the token is a character literal. Then it underlines three columns from the
closing quote on.

Proof: the report underlines as many columns as the token has, from the place of the complaint on,
and no others. The place is the first column of the token, or the last one if the token is a
character literal, which has three columns. -/
theorem Reporter.complaints_underline (settings : Settings) (source : SourceFile) :
    let reporter : Reporter := { files := [source], colored := false }
    ∀ diagnostic ∈ (Analysis.ofSource settings 0 source.content).diagnostics,
      let tok := diagnostic.token
      let heading := s!"{source.name}:{diagnostic.position.render}: error: {diagnostic.message}"
      let report := reporter.error tok diagnostic.position diagnostic.message
      tok.StandsIn source ∧
        (Underlined source tok.line tok.firstColumn tok.column heading report ↔
          tok.kind ≠ .character) ∧
        (tok.kind = .character → tok.firstColumn = tok.column - 2 ∧
          Underlined source tok.line tok.column (tok.column + 2) heading report) := by
  intro reporter diagnostic member tok heading report
  obtain ⟨known, placed⟩ := Analysis.diagnostics_placed settings source diagnostic member
  have stands := Scanner.tokens_standIn 0 _ source tok known
  have own := ((Analysis.ofSource_file settings source).diagnostics diagnostic member).1
  have nonempty : 0 < tok.length := by
    rcases Scanner.tokens_isOf 0 _ source tok known with ⟨-, nonempty⟩ | closes
    · exact nonempty
    · exact absurd closes.kind placed.real
  have start : tok.firstColumn = tok.column - tok.length + 1 := if_neg (by omega)
  have underlined : Underlined source tok.line diagnostic.position.column
      (diagnostic.position.column + tok.length - 1) heading report :=
    error_underlined own stands nonempty placed
  by_cases literal : tok.kind = .character
  · have length : tok.length = 3 := by
      rw [stands.length, Scanner.tokens_character _ tok known literal]
      rfl
    have place : diagnostic.position.column = tok.column := by
      rw [placed.position, if_pos literal]
      rfl
    have last : tok.column + tok.length - 1 = tok.column + 2 := by omega
    rw [place, last] at underlined
    refine ⟨stands, ⟨fun exactly => ?_, absurd literal⟩, fun _ => ⟨by omega, underlined⟩⟩
    have further := (exactly.unique underlined).2
    omega
  · have place : diagnostic.position.column = tok.firstColumn := by
      rw [placed.position, if_neg literal]
      rfl
    have last : tok.firstColumn + tok.length - 1 = tok.column := by omega
    rw [place, last] at underlined
    exact ⟨stands, ⟨fun _ => literal, fun _ => underlined⟩, fun spelled => absurd spelled literal⟩

/-- A character literal as a selector and a variable that is not declared, both behind a tab. -/
def literalSelector : SourceFile :=
  ⟨"a.wz", "program p:\nbegin\n\tcase 'a' of otherwise ; end;\n\ttotal := 2\nend p.\n".toList⟩

/-- The complaints about the literal and the variable. -/
def literalSelectorComplaints : List Diagnostic :=
  [⟨⟨3, 9⟩, { kind := .character, text := "'a'", line := 3, column := 9, length := 3 },
      .literalSelector⟩,
    ⟨⟨4, 2⟩, { kind := .identifier, text := "total", line := 4, column := 6, length := 5 },
      .undeclaredVariable "total"⟩]

/-- There are no other complaints. -/
theorem diagnostics_literalSelector :
    (Analysis.ofSource {} 0 literalSelector.content).diagnostics =
      literalSelectorComplaints := by
  decide +kernel

/-- The variable is underlined. Of the literal only the closing quote is, with two columns more. -/
theorem Reporter.complaints_underline_literalSelector :
    Underlined literalSelector 4 2 6 "a.wz:4:2: error: Undeclared variable: 'total'"
      "a.wz:4:2: error: Undeclared variable: 'total'\n  \ttotal := 2\n  \t^~~~~\n" ∧
    Underlined literalSelector 3 9 11
      "a.wz:3:9: error: Case expression cannot be literal integer, boolean or char values"
      ("a.wz:3:9: error: Case expression cannot be literal integer, boolean or char values\n" ++
        "  \tcase 'a' of otherwise ; end;\n  \t       ^~~\n") := by
  have placed := complaints_underline {} literalSelector
  rw [diagnostics_literalSelector] at placed
  obtain ⟨-, name, -⟩ := placed _ (List.mem_cons_of_mem _ List.mem_cons_self)
  obtain ⟨-, -, literal⟩ := placed _ List.mem_cons_self
  constructor
  · convert name.mpr (by decide) using 1 <;> decide
  · convert (literal rfl).2 using 1 <;> decide

/-- The columns of the literal are not the ones that are underlined. -/
theorem Reporter.literal_not_underlined :
    ∃ diagnostic ∈ (Analysis.ofSource {} 0 literalSelector.content).diagnostics,
      ¬ Underlined literalSelector diagnostic.token.line diagnostic.token.firstColumn
        diagnostic.token.column
        s!"{literalSelector.name}:{diagnostic.position.render}: error: {diagnostic.message}"
        (error { files := [literalSelector], colored := false } diagnostic.token diagnostic.position
          diagnostic.message) := by
  have placed := Analysis.diagnostics_placed {} literalSelector
  rw [diagnostics_literalSelector] at placed ⊢
  refine ⟨_, List.mem_cons_self, fun exactly => ?_⟩
  obtain ⟨known, placed⟩ := placed _ List.mem_cons_self
  have stands := Scanner.tokens_standIn 0 _ literalSelector _ known
  have same := (exactly.unique (error_underlined rfl stands (by decide) placed)).1
  exact absurd same (by decide)

end WinZig
