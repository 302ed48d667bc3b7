import WinZig.Proofs.Rendering.Printer
import WinZig.Proofs.Scanning

/-!
# Scanning a layout of lexemes

A layout puts lexemes one behind the other, with any amount of blanks and line ends between them.
There may be nothing between two lexemes if the first character behind a lexeme could not belong to
it. Scanning such a text finds nothing at fault and gives the lexemes back.
-/

namespace WinZig

namespace Lexeme

/-- The marks. -/
def marks : List Kind := [
  .swap, .assign, .dotDot, .lessEqual, .notEqual, .greaterEqual, .colon, .dot, .less, .greater,
  .equal, .semicolon, .comma, .openParen, .closeParen, .plus, .minus, .star, .slash]

/-- Whether a text is a name, reserved or not. -/
def isWord (text : List Char) : Bool :=
  match text with
  | [] => false
  | c :: rest => Piece.startsName c && rest.all Piece.continuesName

/-- Whether a character can be quoted. -/
def isQuotable (c : Char) : Bool := c != '\'' && c != '\n' && c != '\x00'

/-- The digits that integers are written with. -/
def numerals : List Char := ['0', '1', '2', '3', '4', '5', '6', '7', '8', '9']

/-- The lexemes that can be scanned. -/
inductive Legible : Lexeme → Prop
  | word {kind} (reserved : kind ∈ Kind.reserved) : Legible ⟨kind, kind.name⟩
  | mark {kind} (listed : kind ∈ marks) : Legible ⟨kind, kind.name⟩
  | name {text} (written : isWord text.toList = true) (free : Kind.reservedWord? text = none) :
      Legible ⟨.identifier, text⟩
  | integer {digits : List Char} (some : digits ≠ []) (decimal : ∀ c ∈ digits, c ∈ numerals) :
      Legible ⟨.integer, String.ofList digits⟩
  | character {c} (quotable : isQuotable c = true) :
      Legible ⟨.character, String.ofList ['\'', c, '\'']⟩

/-- Whether a lexeme of a given kind would go on with a character. -/
def goesOn : Kind → Char → Bool
  | .integer, c => Text.isDigit c
  | .colon, c | .greater, c => c == '='
  | .assign, c => c == ':'
  | .dot, c => c == '.'
  | .less, c => c == '=' || c == '>'
  | .identifier, c => Piece.continuesName c
  | kind, c => Kind.reserved.contains kind && Piece.continuesName c

end Lexeme

namespace Rendering

/-- Blanks and line ends. -/
def isGap (c : Char) : Bool := Piece.isBlank c || c == '\n'

/-- A text that consists of some lexemes, with gaps before and behind them. -/
inductive Layout : List Lexeme → List Char → Prop
  | done {gap} (blank : ∀ c ∈ gap, isGap c = true) : Layout [] gap
  | next {gap lexeme lexemes text} (blank : ∀ c ∈ gap, isGap c = true)
      (apart : ∀ c ∈ text.head?, Lexeme.goesOn lexeme.kind c = false)
      (others : Layout lexemes text) :
      Layout (lexeme :: lexemes) (gap ++ (lexeme.text.toList ++ text))

/-- The lexemes with one blank behind each. -/
def spaced (lexemes : List Lexeme) : List Char :=
  lexemes.flatMap fun lexeme => lexeme.text.toList ++ [' ']

end Rendering

namespace Piece

open Lexeme

/-! ## One lexeme -/

/-- A run ends at the first character that does not continue it. -/
theorem run_append {kind : Kind} {front inside rest : List Char} {continues : Char → Bool}
    (all : ∀ c ∈ inside, continues c = true) (ends : ∀ c ∈ rest.head?, continues c = false) :
    run kind front continues (inside ++ rest) = { kind, chars := front ++ inside, rest } := by
  have stops : rest.takeWhile continues = [] ∧ rest.dropWhile continues = rest := by
    cases rest with
    | nil => simp
    | cons c rest => simp [ends c rfl]
  rw [run, List.takeWhile_append_of_pos all, List.dropWhile_append_of_pos all, stops.1, stops.2,
    List.append_nil]

/-- Reserved words are words, and are read as what they are. -/
theorem reserved_legible : ∀ kind ∈ Kind.reserved,
    isWord kind.name.toList = true ∧ Kind.reservedWord? kind.name = some kind := by
  decide

/-- A reserved word would go on with what continues a name. -/
theorem goesOn_reserved {kind : Kind} (reserved : kind ∈ Kind.reserved) (c : Char) :
    goesOn kind c = continuesName c := by
  cases kind <;> first | rfl | exact absurd reserved (by decide)

variable {nested : Bool} {c : Char} {chars rest : List Char}

/-- A word is read up to where no name continues. -/
theorem recognise_word (written : isWord (c :: chars) = true)
    (ends : ∀ d ∈ rest.head?, continuesName d = false) :
    recognise nested c (chars ++ rest) =
      { kind := (Kind.reservedWord? (String.ofList (c :: chars))).getD .identifier
        chars := c :: chars, rest } := by
  obtain ⟨first, others⟩ : startsName c = true ∧ ∀ d ∈ chars, continuesName d = true := by
    simpa [isWord] using written
  rw [recognise, if_pos first, word, run_append others ends]
  rfl

/-- A numeral is read up to where no digit follows. -/
theorem recognise_integer (first : Text.isDigit c = true)
    (others : ∀ d ∈ chars, Text.isDigit d = true)
    (ends : ∀ d ∈ rest.head?, Text.isDigit d = false) :
    recognise nested c (chars ++ rest) = { kind := .integer, chars := c :: chars, rest } := by
  have other : ['#', '{', '\n', ' ', '\t', '\r'].any Text.isDigit = false := by decide
  have letter := startsName_of_isDigit first
  have apart : c ∉ ['#', '{', '\n', ' ', '\t', '\r'] := fun member =>
    List.any_eq_false.mp other c member first
  simp only [List.mem_cons, List.not_mem_nil, or_false, not_or] at apart
  obtain ⟨hash, brace, newline, space, tab, feed⟩ := apart
  have run : run .integer [c] Text.isDigit (chars ++ rest) =
      { kind := .integer, chars := c :: chars, rest } := run_append others ends
  simp [recognise, letter, hash, brace, newline, isBlank, space, tab, feed, first, run]

/-- A quoted character is read whole. -/
theorem recognise_quoted (quotable : isQuotable c = true) :
    recognise nested '\'' (c :: '\'' :: rest) =
      { kind := .character, chars := ['\'', c, '\''], rest } := by
  have quote : (startsName '\'' || isBlank '\'' || Text.isDigit '\'') = false := by decide
  simp only [Bool.or_eq_false_iff] at quote
  obtain ⟨⟨letter, blank⟩, digit⟩ := quote
  have fits : c ≠ '\'' ∧ c ≠ '\n' ∧ c ≠ '\x00' := by simpa [isQuotable, and_assoc] using quotable
  simp [recognise, letter, blank, digit, quoted, fits]

/-- The longest mark at the front of a text is the one that was written, if it does not go on. -/
theorem mark?_append {kind : Kind} (listed : kind ∈ marks)
    (ends : ∀ d ∈ rest.head?, goesOn kind d = false) :
    mark? (kind.name.toList ++ rest) = some (kind, kind.name.toList, rest) := by
  simp only [marks, List.mem_cons, List.not_mem_nil, or_false] at listed
  rcases listed with rfl | rfl | rfl | rfl | rfl | rfl | rfl | rfl | rfl | rfl | rfl | rfl | rfl |
    rfl | rfl | rfl | rfl | rfl | rfl
  all_goals
    cases rest with
    | nil => rfl
    | cons d rest =>
      have ends := ends d rfl
      simp [goesOn, Kind.reserved] at ends
      simp [mark?, Kind.name, ends]

/-- A mark is read where no longer one begins. -/
theorem recognise_mark {kind : Kind} (listed : kind ∈ marks) (written : kind.name.toList = c :: chars)
    (ends : ∀ d ∈ rest.head?, goesOn kind d = false) :
    recognise nested c (chars ++ rest) = { kind, chars := c :: chars, rest } := by
  have other : ∀ kind ∈ marks, kind.name.toList.any (fun d => startsName d || d == '#' || d == '{' ||
      d == '\n' || isBlank d || Text.isDigit d || d == '\'' || d == '"') = false := by decide
  have first := List.any_eq_false.mp (other kind listed) c (by rw [written]; exact List.mem_cons_self)
  simp only [Bool.or_eq_true, beq_iff_eq, not_or, Bool.not_eq_true] at first
  obtain ⟨⟨⟨⟨⟨⟨⟨letter, hash⟩, brace⟩, newline⟩, blank⟩, digit⟩, quote⟩, text⟩ := first
  have mark := mark?_append listed ends
  rw [written, List.cons_append] at mark
  simp [recognise, letter, hash, brace, newline, blank, digit, quote, text, mark]

/-- A line end is read alone. -/
theorem recognise_newline :
    recognise nested '\n' rest = { kind := .newline, chars := ['\n'], rest } := by
  have letter : startsName '\n' = false := by decide
  simp [recognise, letter]

/-- Blanks are read up to where no blank follows. -/
theorem recognise_blank (blank : isBlank c = true) (all : ∀ d ∈ chars, isBlank d = true)
    (ends : ∀ d ∈ rest.head?, isBlank d = false) :
    recognise nested c (chars ++ rest) = { kind := .blank, chars := c :: chars, rest } := by
  have other : [' ', '\t', '\r'].any (fun d => startsName d || d == '#' || d == '{' || d == '\n') =
      false := by decide
  obtain ⟨⟨⟨letter, hash⟩, brace⟩, newline⟩ :
      ((startsName c = false ∧ c ≠ '#') ∧ c ≠ '{') ∧ c ≠ '\n' := by
    simpa using List.any_eq_false.mp other c (by simpa [isBlank, or_assoc] using blank)
  have run : run .blank [c] isBlank (chars ++ rest) = { kind := .blank, chars := c :: chars, rest } :=
    run_append all ends
  simp [recognise, letter, hash, brace, newline, blank, run]

/-- A legible lexeme is recognised in front of whatever does not continue it. -/
theorem recognise_legible {lexeme : Lexeme} (legible : lexeme.Legible)
    (written : lexeme.text.toList = c :: chars)
    (ends : ∀ d ∈ rest.head?, goesOn lexeme.kind d = false) :
    recognise nested c (chars ++ rest) = { kind := lexeme.kind, chars := c :: chars, rest } := by
  have text : String.ofList (c :: chars) = lexeme.text := by rw [← written, String.ofList_toList]
  cases legible with
  | word reserved =>
    obtain ⟨isWord, found⟩ := reserved_legible _ reserved
    rw [written] at isWord
    rw [recognise_word isWord fun d member => (goesOn_reserved reserved d).symm.trans (ends d member),
      text, found]
    rfl
  | mark listed => exact recognise_mark listed written ends
  | name isWord free =>
    rw [written] at isWord
    rw [recognise_word isWord ends, text, free]
    rfl
  | integer some decimal =>
    rw [String.toList_ofList] at written
    rw [written, List.forall_mem_cons] at decimal
    have figures : numerals.all Text.isDigit = true := by decide
    have digits := List.all_eq_true.mp figures
    exact recognise_integer (digits c decimal.1) (fun d member => digits d (decimal.2 d member)) ends
  | character quotable =>
    rw [String.toList_ofList] at written
    obtain ⟨rfl, rfl⟩ := List.cons.inj written
    exact recognise_quoted quotable

/-- No name starts with a blank. -/
theorem isBlank_of_startsName (starts : startsName c = true) : isBlank c = false := by
  have other : [' ', '\t', '\r'].any startsName = false := by decide
  cases blank : isBlank c with
  | false => rfl
  | true =>
    exact absurd starts (List.any_eq_false.mp other c (by simpa [isBlank, or_assoc] using blank))

/-- A legible lexeme starts with a character that is no blank. -/
theorem exists_first {lexeme : Lexeme} (legible : lexeme.Legible) :
    ∃ c chars, lexeme.text.toList = c :: chars ∧ isBlank c = false := by
  have word {text : List Char} (written : isWord text = true) :
      ∃ c chars, text = c :: chars ∧ isBlank c = false := by
    cases text with
    | nil => exact absurd written Bool.false_ne_true
    | cons c chars =>
      have starts : startsName c = true := (Bool.and_eq_true_iff.mp written).1
      exact ⟨c, chars, rfl, isBlank_of_startsName starts⟩
  cases legible with
  | word reserved => exact word (reserved_legible _ reserved).1
  | name written free => exact word written
  | @mark kind listed =>
    have visible : ∀ kind ∈ marks, kind.name.toList.head?.any (!isBlank ·) = true := by decide
    have first := visible kind listed
    cases written : kind.name.toList with
    | nil =>
      rw [written] at first
      exact absurd first Bool.false_ne_true
    | cons c chars =>
      rw [written] at first
      exact ⟨c, chars, rfl, by simpa using first⟩
  | @integer digits some decimal =>
    have digit : numerals.any isBlank = false := by decide
    obtain ⟨c, chars, rfl⟩ := List.exists_cons_of_ne_nil some
    have first := List.any_eq_false.mp digit c (decimal c List.mem_cons_self)
    exact ⟨c, chars, String.toList_ofList, by simpa using first⟩
  | @character c quotable => exact ⟨'\'', [c, '\''], String.toList_ofList, by decide⟩

/-- A legible lexeme is neither layout nor the end. -/
theorem isInternal_of_legible {lexeme : Lexeme} (legible : lexeme.Legible) :
    lexeme.kind.isInternal = false := by
  have words : ∀ kind ∈ Kind.reserved, kind.isInternal = false := by decide
  have marks : ∀ kind ∈ marks, kind.isInternal = false := by decide
  cases legible with
  | word reserved => exact words _ reserved
  | mark listed => exact marks _ listed
  | name | integer | character => rfl

end Piece

/-! ## A whole layout -/

namespace Scanner

open Rendering

/-- Scanning finds nothing at fault in a source and reads some lexemes, wherever the source
stands. -/
def Reads (nested : Bool) (source : List Char) (lexemes : List Lexeme) : Prop :=
  ∀ scanner : Scanner, scanner.nested = nested → scanner.rest = source →
    scanner.fault? = none ∧ scanner.tokens.map Token.lexeme = lexemes

variable {nested : Bool} {source : List Char} {lexemes : List Lexeme}

/-- Nothing reads as no lexemes. -/
theorem Reads.done : Reads nested [] [] := by
  intro scanner _ atEnd
  have steps : scanner.steps = [scanner.next.1] := by rw [steps, dif_pos atEnd]
  have last : scanner.next.1 =
      { token := { file := scanner.file, line := scanner.place.line,
                   column := scanner.place.column } } := by
    rw [next, atEnd]
  simp [fault?, tokens, steps, last, Scanned.fault?, Kind.isInternal]

/-- One step over a piece with which nothing is wrong. -/
theorem Reads.step {c : Char} {rest : List Char} {piece : Piece}
    (recognised : Piece.recognise nested c rest = piece) (sound : piece.cause = none)
    (others : Reads nested piece.rest lexemes) :
    Reads nested (c :: rest)
      (if piece.kind.isInternal then lexemes
        else ⟨piece.kind, String.ofList piece.chars⟩ :: lexemes) := by
  intro scanner same front
  subst recognised same
  have steps : scanner.steps = scanner.next.1 :: scanner.next.2.steps := by
    rw [steps, dif_neg (by simp [front])]
  have cause : scanner.next.1.cause = none := by rw [next, front, ← sound]
  have kind : scanner.next.1.token.kind = (Piece.recognise scanner.nested c rest).kind := by
    rw [next, front, ← stamp_kind]
  have text : scanner.next.1.token.text =
      String.ofList (Piece.recognise scanner.nested c rest).chars := by
    rw [next, front, stamp_text sound]
  obtain ⟨silent, read⟩ := others scanner.next.2 (by rw [next, front]) (by rw [next, front])
  constructor
  · rw [fault?, steps, List.findSome?_cons, Scanned.fault?, cause]
    exact silent
  · rw [tokens, steps, List.takeWhile_cons_of_pos (by simp [cause]), List.map_cons, List.filter_cons,
      kind]
    split
    · next kept =>
      rw [if_neg (by simpa using kept), List.map_cons, Token.lexeme, kind, text]
      exact congrArg _ read
    · next dropped =>
      rw [if_pos (by simpa using dropped)]
      exact read

/-- Every text starts with as many blanks as it can. -/
theorem exists_blanks (text : List Char) : ∃ blanks rest, text = blanks ++ rest ∧
    (∀ c ∈ blanks, Piece.isBlank c = true) ∧ ∀ c ∈ rest.head?, Piece.isBlank c = false := by
  induction text with
  | nil => exact ⟨[], [], rfl, fun _ => nofun, fun _ => nofun⟩
  | cons c text ih =>
    cases blank : Piece.isBlank c with
    | false => exact ⟨[], c :: text, rfl, fun _ => nofun, by simpa using blank⟩
    | true =>
      obtain ⟨blanks, rest, rfl, all, ends⟩ := ih
      exact ⟨c :: blanks, rest, rfl, List.forall_mem_cons.mpr ⟨blank, all⟩, ends⟩

/-- A gap in front of a source that does not start with a blank changes nothing.

Proof: by induction on the length of the gap, since one step may pass many blanks. -/
theorem Reads.gap {gap : List Char} (blank : ∀ c ∈ gap, isGap c = true)
    (apart : ∀ c ∈ source.head?, Piece.isBlank c = false) (others : Reads nested source lexemes) :
    Reads nested (gap ++ source) lexemes := by
  induction length : gap.length using Nat.strongRecOn generalizing gap with
  | ind _ ih =>
    cases gap with
    | nil => exact others
    | cons c gap =>
      obtain ⟨first, rest⟩ := List.forall_mem_cons.mp blank
      by_cases newline : c = '\n'
      · subst newline
        have others := ih gap.length (by simp [← length]) rest rfl
        exact .step Piece.recognise_newline rfl others
      · have isBlank : Piece.isBlank c = true := by simpa [isGap, newline] using first
        obtain ⟨blanks, behind, rfl, all, ends⟩ := exists_blanks gap
        have shorter : behind.length < (c :: (blanks ++ behind)).length := by
          rw [List.length_cons, List.length_append]
          omega
        have others := ih behind.length (length ▸ shorter)
          (fun d member => rest d (List.mem_append_right blanks member)) rfl
        have ends : ∀ d ∈ (behind ++ source).head?, Piece.isBlank d = false := by
          cases behind with
          | nil => exact apart
          | cons d behind => exact ends
        rw [List.cons_append, List.append_assoc]
        exact .step (Piece.recognise_blank isBlank all ends) rfl others

/-- Scanning a layout of legible lexemes gives the lexemes back.

Proof: by induction on the layout. A gap is passed first, and the lexeme behind it is recognised
because the text behind the lexeme does not continue it. -/
theorem reads_of_layout (legible : ∀ lexeme ∈ lexemes, lexeme.Legible)
    (laid : Layout lexemes source) : Reads nested source lexemes := by
  induction laid with
  | done blank =>
    have apart : ∀ c ∈ ([] : List Char).head?, Piece.isBlank c = false := fun _ => nofun
    simpa using Reads.gap blank apart Reads.done
  | @next gap lexeme lexemes text blank apart others ih =>
    obtain ⟨first, rest⟩ := List.forall_mem_cons.mp legible
    obtain ⟨c, chars, written, start⟩ := Piece.exists_first first
    have step : Reads nested (c :: (chars ++ text)) _ :=
      .step (Piece.recognise_legible first written apart) rfl (ih rest)
    rw [Piece.isInternal_of_legible first, if_neg (by decide), ← written, String.ofList_toList] at step
    rw [written, List.cons_append]
    exact .gap blank (by simpa using start) step

end Scanner

/-! ## The layout with single blanks -/

namespace Rendering

/-- No lexeme goes on with a blank. -/
theorem goesOn_blank (kind : Kind) : Lexeme.goesOn kind ' ' = false := by
  have name : Piece.continuesName ' ' = false := by decide
  have digit : Text.isDigit ' ' = false := by decide
  unfold Lexeme.goesOn
  split <;> simp [name, digit]

/-- A layout stays one with a gap in front of it. -/
theorem Layout.widen {lexemes : List Lexeme} {text : List Char} {c : Char} (blank : isGap c = true)
    (laid : Layout lexemes text) : Layout lexemes (c :: text) := by
  cases laid with
  | done all => exact .done (List.forall_mem_cons.mpr ⟨blank, all⟩)
  | next all apart others =>
    rw [← List.cons_append]
    exact .next (List.forall_mem_cons.mpr ⟨blank, all⟩) apart others

/-- One blank keeps any two lexemes apart. -/
theorem layout_spaced (lexemes : List Lexeme) : Layout lexemes (spaced lexemes) := by
  induction lexemes with
  | nil => exact .done fun _ => nofun
  | cons lexeme lexemes ih =>
    have apart : ∀ c ∈ (' ' :: spaced lexemes).head?, Lexeme.goesOn lexeme.kind c = false := by
      simpa using goesOn_blank lexeme.kind
    have laid : Layout (lexeme :: lexemes) ([] ++ (lexeme.text.toList ++ ' ' :: spaced lexemes)) :=
      .next (fun _ => nofun) apart (ih.widen rfl)
    simpa [spaced] using laid

end Rendering

end WinZig
