import WinZig.Proofs.Scanning.Rules

/-!
# Tokens written with gaps between them

The texts of the tokens that scanning hands on, written one behind the other with a gap between any
two, are scanned as the same tokens again, whether or not comments nest. A text or a character
literal may have blanks, marks and braces inside, but it is passed as a whole; marks that would
become one if they stood together are kept apart by the gap; and no lexeme that is handed on starts
a comment.
-/

namespace WinZig

open Lexical Rendering

/-- A lexeme that scanning can hand on: somewhere a rule prescribes it, and it is neither layout nor
a comment. -/
structure Lexeme.Kept (lexeme : Lexeme) : Prop where
  real : lexeme.kind.isInternal = false
  somewhere : ∃ nested source, Prescribed nested source lexeme.kind lexeme.text.toList

namespace Lexical

variable {lexeme rest : List Char}

/-- No gap continues a word or a number. -/
theorem continuesName_of_isGap {d : Char} (gap : isGap d = true) : ¬ ContinuesName d := by
  have none : [' ', '\t', '\r', '\n'].any Piece.continuesName = false := by decide
  rw [← Piece.continuesName_iff]
  exact List.any_eq_false.mp none d (by simpa [isGap, Piece.isBlank, or_assoc] using gap)

/-- A run that a gap does not continue is as long as it can be in front of a gap. -/
theorem longest_run_before_gap {starts continues : Char → Prop} {source : List Char}
    (run : Longest (IsRun starts continues) source lexeme)
    (ends : ∀ d, isGap d = true → ¬ continues d) (gap : ∀ d ∈ rest.head?, isGap d = true) :
    Longest (IsRun starts continues) (lexeme ++ rest) lexeme := by
  obtain ⟨c, chars, _, rfl, _, first, others, _⟩ := longest_run_iff.mp run
  exact longest_run_iff.mpr
    ⟨c, chars, rest, rfl, rfl, first, others, fun d next => ends d (gap d next)⟩

/-- No mark has a gap inside. -/
theorem mark_solid : ∀ kind ∈ Lexeme.marks, kind.name.toList.any isGap = false := by decide

/-- A mark is as long as it can be in front of a gap. -/
theorem longest_mark_before_gap {kind : Kind} (listed : kind ∈ Lexeme.marks)
    (gap : ∀ d ∈ rest.head?, isGap d = true) :
    Longest IsMark (kind.name.toList ++ rest) kind.name.toList := by
  refine ⟨List.prefix_append _ _, ⟨kind, listed, rfl⟩, ?_⟩
  rintro _ front ⟨other, listed', rfl⟩
  by_contra longer
  cases rest with
  | nil =>
    have bound := front.length_le
    rw [List.append_nil] at bound
    exact longer bound
  | cons d rest =>
    have inside : kind.name.toList ++ [d] <+: other.name.toList :=
      List.prefix_of_prefix_length_le ⟨rest, by simp⟩ front
        (by simp only [List.length_append, List.length_singleton]; omega)
    exact List.any_eq_false.mp (mark_solid other listed') d (inside.subset (by simp)) (gap d rfl)

/-- A lexeme that is handed on is prescribed in front of every gap, whether or not comments nest. -/
theorem Prescribed.before_gap {nested : Bool} {source : List Char} {kind : Kind}
    (rule : Prescribed nested source kind lexeme) (real : kind.isInternal = false) (nested' : Bool)
    (gap : ∀ d ∈ rest.head?, isGap d = true) : Prescribed nested' (lexeme ++ rest) kind lexeme := by
  cases rule with
  | atEnd | blank | lineComment | newline | nestedComment | flatComment => cases real
  | name word free =>
    have again := longest_run_before_gap word (fun _ => continuesName_of_isGap) gap
    exact .name again free
  | reserved word listed spelled =>
    have again := longest_run_before_gap word (fun _ => continuesName_of_isGap) gap
    exact .reserved again listed spelled
  | integer digits =>
    have ends : ∀ d, isGap d = true → ¬ Text.isDigit d = true := fun d blank digit =>
      continuesName_of_isGap blank (.inr digit)
    exact .integer (longest_run_before_gap digits ends gap)
  | mark _ listed spelled =>
    subst spelled
    exact .mark (longest_mark_before_gap listed gap) listed rfl
  | text closed => exact .text (closed.again (List.prefix_append _ _))
  | character _ quoted => exact .character (List.prefix_append _ _) quoted

/-- A run of characters that no gap continues does not end with a gap. -/
theorem run_ends {starts continues : Char → Prop} (run : IsRun starts continues lexeme)
    (first : ∀ d, starts d → continues d) (ends : ∀ d, isGap d = true → ¬ continues d) :
    ∀ d ∈ lexeme.getLast?, isGap d = false := by
  obtain ⟨c, others, rfl, starts, all⟩ := run
  intro d last
  by_contra gap
  have goesOn : ∀ e ∈ c :: others, continues e := List.forall_mem_cons.mpr ⟨first c starts, all⟩
  exact ends d (by simpa using gap) (goesOn d (List.mem_of_getLast? last))

/-- A lexeme that is handed on does not end with a gap. -/
theorem Prescribed.ends {nested : Bool} {source : List Char} {kind : Kind}
    (rule : Prescribed nested source kind lexeme) (real : kind.isInternal = false) :
    ∀ d ∈ lexeme.getLast?, isGap d = false := by
  cases rule with
  | atEnd | blank | lineComment | newline | nestedComment | flatComment => cases real
  | name word | reserved word =>
    exact run_ends word.belongs (fun _ => .inl) fun _ => continuesName_of_isGap
  | integer digits =>
    exact run_ends digits.belongs (fun _ => id) fun d blank digit =>
      continuesName_of_isGap blank (.inr digit)
  | mark _ listed spelled =>
    intro d last
    have none := List.any_eq_false.mp (mark_solid kind listed) d
    rw [spelled] at none
    simpa using none (List.mem_of_getLast? last)
  | text closed =>
    obtain ⟨inside, rfl, -⟩ := closed.belongs
    intro d last
    rw [← List.cons_append, List.getLast?_concat] at last
    obtain rfl := Option.some.inj last
    decide
  | character _ quoted =>
    obtain ⟨c, rfl, -⟩ := quoted
    intro d last
    obtain rfl : '\'' = d := by simpa using last
    decide

end Lexical

namespace Piece

/-- A blank is recognised as layout. -/
theorem recognise_kind_of_isBlank (nested : Bool) {c : Char} (rest : List Char)
    (blank : isBlank c = true) : (recognise nested c rest).kind = .blank := by
  obtain ⟨blanks, behind, rfl, all, ends⟩ := Scanner.exists_blanks rest
  rw [recognise_blank blank all ends]

end Piece

namespace Scanner

/-- Every token that is handed on is a lexeme that can be handed on. -/
theorem tokens_kept (scanner : Scanner) : ∀ tok ∈ scanner.tokens, tok.lexeme.Kept := by
  obtain ⟨count, -, before, -, handed, -⟩ := exists_stop scanner
  intro tok member
  rw [handed] at member
  obtain ⟨listed, real⟩ := List.mem_filter.mp member
  obtain ⟨earlier, below, rfl⟩ := List.mem_map.mp listed
  obtain ⟨kind, lexeme, rule⟩ := exists_prescribed (before earlier (List.mem_range.mp below)).1
  have shown : (scanner.call earlier).token.lexeme = ⟨kind, String.ofList lexeme⟩ := by
    rw [call, next_of_prescribed rule]
    rfl
  have same : (scanner.call earlier).token.kind = kind := congrArg Lexeme.kind shown
  have written : (String.ofList lexeme).toList = lexeme := String.toList_ofList
  rw [← written] at rule
  rw [shown]
  exact ⟨by simpa [same] using real, _, _, rule⟩

variable {nested : Bool} {lexeme : Lexeme} {lexemes : List Lexeme} {rest : List Char}

/-- A lexeme is read in front of a gap. -/
theorem Reads.keep (kept : lexeme.Kept) (gap : ∀ d ∈ rest.head?, isGap d = true)
    (others : Reads nested rest lexemes) :
    Reads nested (lexeme.text.toList ++ rest) (lexeme :: lexemes) ∧
      ∀ d ∈ (lexeme.text.toList ++ rest).head?, Piece.isBlank d = false := by
  obtain ⟨real, _, _, somewhere⟩ := kept
  have rule := somewhere.before_gap real nested gap
  cases whole : lexeme.text.toList ++ rest with
  | nil =>
    rw [whole] at rule
    rw [(prescribed_nil rule).1] at real
    cases real
  | cons c source =>
    have tiles := Piece.recognise_tiles nested c source
    rw [whole] at rule
    obtain ⟨behind, recognised⟩ := Piece.recognise_of_prescribed rule
    rw [recognised, ← whole] at tiles
    obtain rfl : behind = rest := List.append_cancel_left tiles
    constructor
    · have step := Reads.step recognised rfl others
      rwa [if_neg (by simp [real]), String.ofList_toList] at step
    · intro d first
      obtain rfl : c = d := Option.some.inj first
      by_contra blank
      have layout : lexeme.kind = .blank := (congrArg Piece.kind recognised).symm.trans
        (Piece.recognise_kind_of_isBlank nested source (by simpa using blank))
      rw [layout] at real
      cases real

/-- Lexemes with a gap between any two are read. -/
theorem reads_intercalate (nested : Bool) {separator : List Char} (some : separator ≠ [])
    (blank : ∀ c ∈ separator, isGap c = true) (kept : ∀ lexeme ∈ lexemes, lexeme.Kept) :
    Reads nested (separator.intercalate (lexemes.map (·.text.toList))) lexemes ∧
      ∀ d ∈ (separator.intercalate (lexemes.map (·.text.toList))).head?,
        Piece.isBlank d = false := by
  induction lexemes with
  | nil => exact ⟨Reads.done, by simp⟩
  | cons lexeme lexemes inductionHypothesis =>
    obtain ⟨first, others⟩ := List.forall_mem_cons.mp kept
    obtain ⟨read, solid⟩ := inductionHypothesis others
    cases lexemes with
    | nil =>
      have alone := Reads.keep first (by simp) (@Reads.done nested)
      simpa using alone
    | cons other lexemes =>
      have apart : ∀ d ∈ (separator ++ separator.intercalate
          ((other :: lexemes).map (·.text.toList))).head?, isGap d = true := by
        obtain ⟨c, gap, rfl⟩ := List.exists_cons_of_ne_nil some
        simpa using blank c List.mem_cons_self
      simpa using Reads.keep first apart (read.gap blank solid)

/-- Written with any gap between them, such as one blank or one line end, the tokens of a source are
scanned again, whatever file the text is read from and whether or not comments nest there.

Proof: every token handed on is a lexeme that a rule prescribes. A name, a number or a mark is as
long as it can be, and a gap does not continue it; a text or a character literal is prescribed
wherever it stands. So the rules prescribe the same lexeme in front of a gap, and the gap is passed
as layout. -/
theorem tokens_respaced (scanner : Scanner) (index : Int) (nested : Bool) (separator : String)
    (some : separator ≠ "") (blank : ∀ c ∈ separator.toList, isGap c = true) :
    let again : Scanner :=
      { file := index, nested
        rest := (separator.intercalate (scanner.tokens.map Token.text)).toList }
    again.fault? = none ∧ again.tokens.map Token.lexeme = scanner.tokens.map Token.lexeme := by
  have kept : ∀ lexeme ∈ scanner.tokens.map Token.lexeme, lexeme.Kept := by
    simpa using tokens_kept scanner
  have texts : (scanner.tokens.map Token.lexeme).map (·.text.toList) =
      (scanner.tokens.map Token.text).map String.toList := by
    simp [Token.lexeme]
  obtain ⟨read, -⟩ := reads_intercalate nested (by simpa using some) blank kept
  rw [texts, ← String.toList_intercalate] at read
  exact read _ rfl rfl

/-- Marks that stand together, a text with a comment sign and a brace inside, and a quoted blank. -/
theorem tokens_respaced_closeMarks :
    let source : Scanner := { rest := "x:=:<=\"a # \x7b\"' '.. \x7bc\x7d.7é".toList }
    source.tokens.map Token.text = ["x", ":=:", "<=", "\"a # \x7b\"", "' '", "..", ".", "7", "é"] ∧
    ∀ separator ∈ [" ", "\n"], ∀ nested,
      let again : Scanner :=
        { nested, rest := (separator.intercalate (source.tokens.map Token.text)).toList }
      again.fault? = none ∧ again.tokens.map Token.lexeme = source.tokens.map Token.lexeme := by
  refine ⟨by decide +kernel, fun separator member nested => ?_⟩
  have gap : ∀ separator ∈ [" ", "\n"],
      separator ≠ "" ∧ ∀ c ∈ separator.toList, isGap c = true := by simp [isGap, Piece.isBlank]
  exact tokens_respaced _ 0 nested separator (gap separator member).1 (gap separator member).2

end Scanner

end WinZig
