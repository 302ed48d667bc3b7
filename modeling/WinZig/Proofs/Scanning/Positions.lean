import WinZig.Proofs.Scanning.Tiling
import WinZig.Report

/-!
# Tokens stand where they say

A scanner keeps a line and a column and moves them over every character it passes, whatever it
recognises there. A token is stamped with the place behind it, and where it begins is computed back
from its length. That is right because a token that is handed on, or blamed, shows a text within one
line: comments, the only texts that go over several lines, are dropped when they are closed and are
blamed on their opening brace when they are not.

The invariant says where in the lines of the source a place stands; one step moves it, and every step
of scanning keeps it.
-/

namespace WinZig

/-- The characters of a line from one column to another, both counted from one. -/
def columns (line : List Char) (first last : Int) : List Char :=
  (line.take last.toNat).drop (first.toNat - 1)

namespace Token

/-- The token is the text of a source between its two columns of its line. -/
structure StandsIn (file : SourceFile) (tok : Token) : Prop where
  first : 1 ≤ tok.firstColumn
  last : tok.firstColumn ≤ tok.column
  length : tok.length = tok.text.toList.length
  shown : ∃ line, file.line? tok.line = some line ∧
    columns line tok.firstColumn tok.column = tok.text.toList

/-- One token ends before another begins. -/
def Before (tok other : Token) : Prop :=
  tok.line < other.line ∨ tok.line = other.line ∧ tok.column < other.firstColumn

end Token

/-! ## Places in the lines of a source -/

namespace Place

/-- A place in a source, in front of what is left of it: so many lines are over, and so many
characters of the line have been passed. -/
def InFrontOf (place : Place) (source rest : List Char) : Prop :=
  ∃ earlier passed ahead later, source.splitOn '\n' = earlier ++ (passed ++ ahead) :: later ∧
    rest.splitOn '\n' = ahead :: later ∧
    place.line = earlier.length + 1 ∧ place.column = passed.length

/-- The first place is in front of the whole source. -/
theorem inFrontOf_start (source : List Char) : InFrontOf {} source source := by
  obtain ⟨ahead, later, split⟩ := List.exists_cons_of_ne_nil (List.splitOn_ne_nil '\n' source)
  exact ⟨[], [], ahead, later, by rw [split, List.nil_append, List.nil_append], split, rfl, rfl⟩

/-- Passing one character keeps the invariant. A line end closes the line that was passed. -/
theorem InFrontOf.step {place : Place} {source rest : List Char} {c : Char}
    (stands : place.InFrontOf source (c :: rest)) : (place.step c).InFrontOf source rest := by
  obtain ⟨earlier, passed, ahead, later, whole, split, line, column⟩ := stands
  obtain ⟨ahead', later', split'⟩ := List.exists_cons_of_ne_nil (List.splitOn_ne_nil '\n' rest)
  rw [List.splitOn_cons_eq_if_modifyHead, split'] at split
  unfold Place.step
  by_cases newline : c = '\n'
  · rw [if_pos (by simpa using newline)] at split
    obtain ⟨rfl, rfl⟩ := List.cons.inj split
    rw [if_pos newline]
    exact ⟨earlier ++ [passed], [], ahead', later', by simpa using whole, split', by simp [line], rfl⟩
  · rw [if_neg (by simpa using newline)] at split
    obtain ⟨rfl, rfl⟩ := List.cons.inj split
    rw [if_neg newline]
    exact ⟨earlier, passed ++ [c], ahead', later', by simpa using whole, split', line, by simp [column]⟩

/-- A place that goes on over a piece is in front of what is left. -/
theorem InFrontOf.advance {place : Place} {source piece rest : List Char}
    (stands : place.InFrontOf source (piece ++ rest)) :
    (place.advance piece).InFrontOf source rest := by
  induction piece generalizing place with
  | nil => exact stands
  | cons c piece inductionHypothesis => exact inductionHypothesis (InFrontOf.step stands)

/-- Within a line, columns count characters. -/
theorem advance_of_no_newline {piece : List Char} (flat : '\n' ∉ piece) (place : Place) :
    place.advance piece = ⟨place.line, place.column + piece.length⟩ := by
  induction piece generalizing place with
  | nil => rfl
  | cons c piece inductionHypothesis =>
    obtain ⟨other, flat⟩ := List.ne_and_not_mem_of_not_mem_cons flat
    have first : place.step c = ⟨place.line, place.column + 1⟩ := if_neg (Ne.symm other)
    have rest := inductionHypothesis flat (place.step c)
    rw [first] at rest
    simpa [Place.advance, first, Nat.add_assoc, Nat.add_comm 1] using rest

/-- A text without line ends only makes the first line longer. -/
theorem splitOn_append {piece : List Char} (flat : '\n' ∉ piece) (rest : List Char) :
    (piece ++ rest).splitOn '\n' = (rest.splitOn '\n').modifyHead (piece ++ ·) := by
  induction piece with
  | nil => exact (congrFun List.modifyHead_id (rest.splitOn '\n')).symm
  | cons c piece inductionHypothesis =>
    obtain ⟨other, flat⟩ := List.ne_and_not_mem_of_not_mem_cons flat
    rw [List.cons_append, List.splitOn_cons_eq_if_modifyHead, if_neg (by simpa using Ne.symm other),
      inductionHypothesis flat, List.modifyHead_modifyHead]
    rfl

/-- A text without line ends is found in its line, behind the characters that were passed. -/
theorem InFrontOf.line {place : Place} {file : SourceFile} {piece rest : List Char}
    (stands : place.InFrontOf file.content (piece ++ rest)) (flat : '\n' ∉ piece) :
    ∃ line, file.line? place.line = some line ∧
      columns line (place.column + 1) (place.column + piece.length) = piece := by
  obtain ⟨earlier, passed, ahead, later, whole, split, number, column⟩ := stands
  obtain ⟨ahead', later', split'⟩ := List.exists_cons_of_ne_nil (List.splitOn_ne_nil '\n' rest)
  rw [splitOn_append flat, split'] at split
  obtain ⟨rfl, rfl⟩ := List.cons.inj split
  refine ⟨passed ++ (piece ++ ahead'), ?_, ?_⟩
  · have index : (place.line : Int).toNat - 1 = earlier.length := by omega
    rw [SourceFile.line?, if_neg (by omega), whole, index, List.getElem?_append_right (Nat.le_refl _),
      Nat.sub_self, List.getElem?_cons_zero]
  · have last : ((place.column : Int) + piece.length).toNat = (passed ++ piece).length := by
      rw [List.length_append]
      omega
    have first : ((place.column : Int) + 1).toNat - 1 = passed.length := by omega
    rw [columns, last, first, ← List.append_assoc, List.take_left, List.drop_left]

/-! ## The order of places -/

/-- One place is not behind another. -/
def Reaches (place other : Place) : Prop :=
  place.line < other.line ∨ place.line = other.line ∧ place.column ≤ other.column

/-- A place reaches itself. -/
theorem Reaches.refl (place : Place) : place.Reaches place := .inr ⟨rfl, Nat.le_refl _⟩

/-- What is reached over a place between is reached. -/
theorem Reaches.trans {place middle other : Place} (first : place.Reaches middle)
    (second : middle.Reaches other) : place.Reaches other := by
  unfold Reaches at *
  omega

/-- A place reaches the one behind a character. -/
theorem reaches_step (place : Place) (c : Char) : place.Reaches (place.step c) := by
  unfold Place.step Reaches
  split
  · exact .inl (Nat.lt_succ_self _)
  · exact .inr ⟨rfl, Nat.le_succ _⟩

/-- A place reaches the one behind a piece. -/
theorem reaches_advance (place : Place) (piece : List Char) :
    place.Reaches (place.advance piece) := by
  induction piece generalizing place with
  | nil => exact Reaches.refl place
  | cons c piece inductionHypothesis =>
    exact (reaches_step place c).trans (inductionHypothesis (place.step c))

/-- Going on over two pieces is going on over one and then the other. -/
theorem advance_append (place : Place) (piece more : List Char) :
    place.advance (piece ++ more) = (place.advance piece).advance more :=
  List.foldl_append

/-- A token begins behind a place. -/
def Precedes (place : Place) (tok : Token) : Prop :=
  (place.line : Int) < tok.line ∨ (place.line : Int) = tok.line ∧ (place.column : Int) < tok.firstColumn

end Place

/-! ## What is shown of a piece -/

namespace Piece

/-- Whether a piece gives a token that is handed on or a fault. -/
def matters (piece : Piece) : Prop := piece.cause ≠ none ∨ piece.kind.isInternal = false

/-- What ends a run is not in it. -/
theorem not_mem_takeWhile {continues : Char → Bool} {c : Char} (ends : continues c = false)
    (rest : List Char) : c ∉ rest.takeWhile continues := by
  intro member
  exact absurd (List.mem_takeWhile_imp member) (by simp [ends])

/-- A run of characters other than line ends has no line end in it. -/
theorem run_flat (kind : Kind) {c : Char} {continues : Char → Bool} (first : c ≠ '\n')
    (ends : continues '\n' = false) (rest : List Char) :
    '\n' ∉ (run kind [c] continues rest).chars := by
  simp only [run, List.singleton_append, List.mem_cons, not_or]
  exact ⟨Ne.symm first, not_mem_takeWhile ends rest⟩

/-- A quoted character stands on one line. -/
theorem quoted_flat (rest : List Char) : '\n' ∉ (quoted rest).chars := by
  unfold quoted
  split
  · next c behind =>
    split
    · next fits => simp [Ne.symm fits.2.1]
    · simp
  · simp

/-- A text stands on one line. -/
theorem string_flat (rest : List Char) : '\n' ∉ (string rest).chars := by
  have inside : '\n' ∉ rest.takeWhile fun c => c != '"' && c != '\n' :=
    not_mem_takeWhile (by decide) rest
  unfold string
  dsimp only
  split <;> simp [inside]

/-- A mark stands on one line. -/
theorem mark?_flat {source chars behind : List Char} {kind : Kind}
    (found : mark? source = some (kind, chars, behind)) : '\n' ∉ chars := by
  unfold mark? at found
  split at found <;> simp at found <;> simp [← found.2.1]

/-- A piece that is an unclosed comment starts with the brace that is blamed; any other piece that
matters is no comment and lies within a line. -/
theorem recognise_shown (nested : Bool) (c : Char) (rest : List Char) :
    ((recognise nested c rest).cause = some .openComment →
      ∃ behind, (recognise nested c rest).chars = '{' :: behind) ∧
    ((recognise nested c rest).cause ≠ some .openComment → (recognise nested c rest).matters →
      (recognise nested c rest).kind ≠ .blockComment ∧ '\n' ∉ (recognise nested c rest).chars) := by
  have starts : startsName '\n' = false := by decide
  have continues : continuesName '\n' = false := by decide
  have digit : Text.isDigit '\n' = false := by decide
  refine recognise_elim nested c rest (motive := fun piece =>
      (piece.cause = some .openComment → ∃ behind, piece.chars = '{' :: behind) ∧
      (piece.cause ≠ some .openComment → piece.matters →
        piece.kind ≠ .blockComment ∧ '\n' ∉ piece.chars))
    ?word ?lineComment ?comment ?newline ?blank ?integer ?quoted ?string ?mark ?unknown
  case word =>
    intro first
    refine ⟨by simp [word, run], fun _ _ => ⟨?_, ?_⟩⟩
    · intro same
      exact absurd (word_kind c rest).1 (by simp [same, Kind.isInternal])
    · refine run_flat .identifier ?_ continues rest
      rintro rfl
      exact absurd first (by simp [starts])
  case comment =>
    rintro rfl
    unfold comment
    split
    · exact ⟨by simp, by simp [matters, Kind.isInternal]⟩
    · exact ⟨fun _ => ⟨rest, rfl⟩, by simp⟩
  case integer =>
    intro first
    refine ⟨by simp [run], fun _ _ => ⟨by simp [run], ?_⟩⟩
    refine run_flat .integer ?_ digit rest
    rintro rfl
    exact absurd first (by simp [digit])
  case quoted =>
    intro _
    refine ⟨?_, fun _ _ => ⟨?_, quoted_flat rest⟩⟩
    · unfold quoted
      split
      · split <;> simp
      · simp
    · unfold quoted
      split
      · split <;> simp
      · simp
  case string =>
    intro _
    refine ⟨?_, fun _ _ => ⟨?_, string_flat rest⟩⟩
    · unfold string
      dsimp only
      split <;> simp
    · unfold string
      dsimp only
      split <;> simp
  case mark =>
    intro kind chars behind found
    refine ⟨by simp, fun _ _ => ⟨?_, mark?_flat found⟩⟩
    rintro rfl
    exact absurd (mark?_kind found).1 (by decide)
  case unknown =>
    intro other
    exact ⟨by simp, fun _ _ => ⟨by simp, by simpa using Ne.symm other⟩⟩
  all_goals
    intro _
    exact ⟨by simp [run], by simp [matters, run, Kind.isInternal]⟩

/-- A token that matters shows a text without line ends at the front of its piece, and carries the
place of that text. -/
theorem stamp_shown {nested : Bool} {c : Char} {rest : List Char} (file : Int) (before : Place)
    (matters : (recognise nested c rest).matters) :
    ∃ shown behind, shown ≠ [] ∧ '\n' ∉ shown ∧
      (recognise nested c rest).chars = shown ++ behind ∧
      Scanner.stamp file before (before.advance (recognise nested c rest).chars)
          (recognise nested c rest) =
        { kind := (recognise nested c rest).kind, text := String.ofList shown, file
          line := before.line, column := before.column + shown.length, length := shown.length } := by
  obtain ⟨opened, other⟩ := recognise_shown nested c rest
  have nonempty := recognise_chars_ne_nil nested c rest
  by_cases cause : (recognise nested c rest).cause = some .openComment
  · obtain ⟨behind, chars⟩ := opened cause
    refine ⟨['{'], behind, by simp, by decide, chars, ?_⟩
    simp [Scanner.stamp, cause]
  · obtain ⟨kind, flat⟩ := other cause matters
    refine ⟨(recognise nested c rest).chars, [], nonempty, flat, by simp, ?_⟩
    simp [Scanner.stamp, cause, kind, Place.advance_of_no_newline flat]

end Piece

namespace Scanner

/-- Scanning a source from its start. -/
def ofSource (index : Int) (nested : Bool) (file : SourceFile) : Scanner :=
  { file := index, nested, rest := file.content }

/-! ## One step -/

section Step

variable {scanner : Scanner}

/-- A step of the scanner leaves it in front of what is left. -/
theorem inFrontOf_next {source : List Char}
    (stands : scanner.place.InFrontOf source scanner.rest) :
    scanner.next.2.place.InFrontOf source scanner.next.2.rest := by
  cases ahead : scanner.rest with
  | nil =>
    rw [next_at_end ahead]
    exact stands
  | cons c rest =>
    rw [ahead, ← Piece.recognise_tiles scanner.nested c rest] at stands
    rw [next_of_rest ahead]
    exact stands.advance

/-- A step of the scanner does not go back. -/
theorem reaches_next (scanner : Scanner) : scanner.place.Reaches scanner.next.2.place := by
  cases ahead : scanner.rest with
  | nil =>
    rw [next_at_end ahead]
    exact Place.Reaches.refl _
  | cons c rest =>
    rw [next_of_rest ahead]
    exact Place.reaches_advance _ _

/-- Whether a step gives a token that is handed on or a fault. -/
def Matters (scanned : Scanned) : Prop :=
  scanned.cause ≠ none ∨ scanned.token.kind.isInternal = false

/-- A step that matters shows a text without line ends that is left at its place. -/
theorem next_shown (matters : Matters scanner.next.1) :
    ∃ shown behind, shown ≠ [] ∧ '\n' ∉ shown ∧ scanner.rest = shown ++ behind ∧
      (scanner.place.advance shown).Reaches scanner.next.2.place ∧
      scanner.next.1.token.text = String.ofList shown ∧
      scanner.next.1.token.line = scanner.place.line ∧
      scanner.next.1.token.column = scanner.place.column + shown.length ∧
      scanner.next.1.token.length = shown.length := by
  cases ahead : scanner.rest with
  | nil =>
    rw [next_at_end ahead] at matters
    simp [Matters, Kind.isInternal] at matters
  | cons c rest =>
    have whole := Piece.recognise_tiles scanner.nested c rest
    rw [next_of_rest ahead] at matters ⊢
    rw [Matters, stamp_kind] at matters
    obtain ⟨shown, behind, nonempty, flat, chars, stamped⟩ :=
      Piece.stamp_shown scanner.file scanner.place matters
    rw [stamped]
    refine ⟨shown, behind ++ (Piece.recognise scanner.nested c rest).rest, nonempty, flat, ?_, ?_,
      rfl, rfl, rfl, rfl⟩
    · rw [← whole, chars, List.append_assoc]
    · rw [chars, Place.advance_append]
      exact Place.reaches_advance _ _

/-- A token that matters begins behind the place of its step, and ends no later than the place the
step has reached. -/
theorem next_between (matters : Matters scanner.next.1) :
    scanner.place.Precedes scanner.next.1.token ∧
      ∀ other, scanner.next.2.place.Precedes other → scanner.next.1.token.Before other := by
  obtain ⟨shown, behind, nonempty, flat, -, reached, -, line, column, length⟩ := next_shown matters
  have some : 0 < shown.length := List.length_pos_iff.mpr nonempty
  rw [Place.advance_of_no_newline flat] at reached
  unfold Place.Reaches at reached
  dsimp only at reached
  refine ⟨?_, fun other precedes => ?_⟩
  · unfold Place.Precedes Token.firstColumn
    rw [line, column, length, if_neg (by omega)]
    omega
  · unfold Place.Precedes at precedes
    unfold Token.Before
    omega

/-- A token that matters stands where it says. -/
theorem next_standsIn {file : SourceFile}
    (stands : scanner.place.InFrontOf file.content scanner.rest)
    (matters : Matters scanner.next.1) : scanner.next.1.token.StandsIn file := by
  obtain ⟨shown, behind, nonempty, flat, ahead, -, text, line, column, length⟩ := next_shown matters
  have some : 0 < shown.length := List.length_pos_iff.mpr nonempty
  have first : scanner.next.1.token.firstColumn = scanner.place.column + 1 := by
    rw [Token.firstColumn, column, length, if_neg (by omega)]
    omega
  rw [ahead] at stands
  constructor
  case first => omega
  case last => omega
  case length => rw [length, text, String.toList_ofList]
  case shown =>
    rw [line, first, column, text, String.toList_ofList]
    exact stands.line flat

end Step

/-! ## All steps -/

variable (index : Int) (nested : Bool) (file : SourceFile)

/-- After any number of steps the scanner is in front of what is left. -/
theorem inFrontOf_after (count : Nat) :
    ((ofSource index nested file).after count).place.InFrontOf file.content
      ((ofSource index nested file).after count).rest := by
  induction count with
  | zero => exact Place.inFrontOf_start file.content
  | succ count inductionHypothesis =>
    rw [after_succ]
    exact inFrontOf_next inductionHypothesis

/-- Whatever step is taken, a token that matters stands where it says. -/
theorem call_standsIn (count : Nat) (matters : Matters ((ofSource index nested file).call count)) :
    ((ofSource index nested file).call count).token.StandsIn file :=
  next_standsIn (inFrontOf_after index nested file count) matters

/-- All tokens of a file stand where they say. -/
theorem tokens_standIn : ∀ tok ∈ (ofSource index nested file).tokens, tok.StandsIn file := by
  obtain ⟨count, -, -, -, handed, -⟩ := exists_stop (ofSource index nested file)
  rw [handed]
  intro tok member
  obtain ⟨taken, kept⟩ := List.mem_filter.mp member
  obtain ⟨earlier, -, rfl⟩ := List.mem_map.mp taken
  exact call_standsIn index nested file earlier (.inr (by simpa using kept))

/-- The tokens handed on, and behind them the token that is blamed, if there is one. -/
def reported (scanner : Scanner) : List Token :=
  scanner.tokens ++ (scanner.fault?.map Fault.token).toList

/-- A step either reports nothing, or reports its token and perhaps more behind it. -/
theorem reported_of_rest {scanner : Scanner} (more : scanner.rest ≠ []) :
    (¬ Matters scanner.next.1 ∧ scanner.reported = scanner.next.2.reported) ∨
      Matters scanner.next.1 ∧
        (scanner.reported = [scanner.next.1.token] ∨
          scanner.reported = scanner.next.1.token :: scanner.next.2.reported) := by
  cases cause : scanner.next.1.cause with
  | some wrong =>
    obtain ⟨none, fault⟩ := tokens_of_fault more cause
    refine .inr ⟨.inl (by simp [cause]), .inl ?_⟩
    rw [reported, none, fault, Scanned.fault?, cause]
    rfl
  | none =>
    obtain ⟨handed, fault⟩ := tokens_of_sound more cause
    rw [reported, handed, fault, List.append_assoc]
    cases internal : scanner.next.1.token.kind.isInternal with
    | true => exact .inl ⟨by simp [Matters, cause, internal], by simp [internal, reported]⟩
    | false => exact .inr ⟨.inr internal, .inr (by simp [internal, reported])⟩

/-- Tokens are reported from left to right.

Proof: by induction along the steps. The reported tokens all begin behind the place of the scanner, so
those of later steps begin behind the place that this step has reached, where its token has ended. -/
theorem reported_ordered (scanner : Scanner) :
    (∀ tok ∈ scanner.reported, scanner.place.Precedes tok) ∧
      scanner.reported.Pairwise Token.Before := by
  induction scanner using steps.induct with
  | case1 scanner nothing =>
    have last : scanner.steps = [scanner.next.1] := by rw [steps, dif_pos nothing]
    have none : scanner.reported = [] := by
      simp [reported, tokens, fault?, last, next_at_end nothing, Kind.isInternal, Scanned.fault?]
    rw [none]
    exact ⟨fun tok member => absurd member List.not_mem_nil, List.Pairwise.nil⟩
  | case2 scanner more inductionHypothesis =>
    obtain ⟨behind, ordered⟩ := inductionHypothesis
    have later : ∀ tok ∈ scanner.next.2.reported, scanner.place.Precedes tok := by
      intro tok member
      have reached := reaches_next scanner
      have precedes := behind tok member
      unfold Place.Reaches at reached
      unfold Place.Precedes at precedes ⊢
      omega
    rcases reported_of_rest more with ⟨-, same⟩ | ⟨matters, only | first⟩
    · rw [same]
      exact ⟨later, ordered⟩
    · rw [only]
      exact ⟨List.forall_mem_singleton.mpr (next_between matters).1, List.pairwise_singleton _ _⟩
    · obtain ⟨begins, ends⟩ := next_between matters
      rw [first, List.forall_mem_cons, List.pairwise_cons]
      exact ⟨⟨begins, later⟩, fun tok member => ends tok (behind tok member), ordered⟩

/-- Positions are right: every token handed on, and every token blamed in whatever step, is the text
between its columns of its line, and tokens stand from left to right without overlap, the blamed one
behind all that were handed on before it. -/
theorem positions_exact :
    (∀ tok ∈ (ofSource index nested file).tokens, tok.StandsIn file) ∧
    (∀ count fault, ((ofSource index nested file).call count).fault? = some fault →
      fault.token.StandsIn file) ∧
    (ofSource index nested file).reported.Pairwise Token.Before := by
  refine ⟨tokens_standIn index nested file, fun count fault blamed => ?_,
    (reported_ordered (ofSource index nested file)).2⟩
  obtain ⟨cause, wrong, rfl⟩ := Option.map_eq_some_iff.mp blamed
  exact call_standsIn index nested file count (.inl (by simp [wrong]))

end Scanner

end WinZig
