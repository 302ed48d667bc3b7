import Mathlib
import WinZig.Token.Stream

/-!
# What scanning hands on

Every token that scanning hands on is stamped from a piece of the source. A character literal keeps
both its quotes, and no token stands for the end.

Names and integers are told apart by their first character, as no letter is a digit.
-/

namespace WinZig

namespace Text

/-- Whether two sets are seen to have nothing in common by going through their ranges side by side:
behind the other ranges that end before a range begins, the next one begins behind its end. -/
def Ranges.apart : Ranges → Ranges → Bool
  | [], _ => true
  | (first, last) :: rest, others =>
    let ahead := others.dropWhile fun range => range.2 < first && range.2 ≤ last
    ahead.head?.all (fun range => last < range.1 && last ≤ range.2) && Ranges.apart rest ahead

/-- Ranges that end before a code point have no part in whether it belongs to the set. -/
theorem Ranges.contains_dropWhile {ranges : Ranges} {code : Nat} (skips : Nat × Nat → Bool)
    (before : ∀ range, skips range = true → range.2 < code) :
    Ranges.contains (ranges.dropWhile skips) code = ranges.contains code := by
  induction ranges with
  | nil => rfl
  | cons range ranges inductionHypothesis =>
    cases skipped : skips range with
    | false => rw [List.dropWhile_cons_of_neg (by simp [skipped])]
    | true =>
      have ends := Nat.not_le.mpr (before range skipped)
      rw [List.dropWhile_cons_of_pos skipped, inductionHypothesis, Ranges.contains.eq_2,
        if_neg ends]

/-- A code in some ranges is not in others that are apart from them. -/
theorem Ranges.contains_of_apart {ranges others : Ranges} {code : Nat}
    (apart : ranges.apart others = true) (member : ranges.contains code = true) :
    others.contains code = false := by
  induction ranges generalizing others with
  | nil => exact absurd member Bool.false_ne_true
  | cons range ranges inductionHypothesis =>
    obtain ⟨first, last⟩ := range
    obtain ⟨next, rest⟩ := Bool.and_eq_true_iff.mp apart
    by_cases inside : code ≤ last
    · have begins : first ≤ code := by simpa [Ranges.contains, inside] using member
      rw [← Ranges.contains_dropWhile (fun range => range.2 < first && range.2 ≤ last) (by grind)]
      generalize others.dropWhile (fun range => range.2 < first && range.2 ≤ last) = ahead at next
      cases ahead with
      | nil => rfl
      | cons other ahead =>
        have behind : last < other.1 ∧ last ≤ other.2 := by simpa using next
        rw [Ranges.contains.eq_2, if_pos (by omega)]
        exact decide_eq_false (by omega)
    · have further : Ranges.contains ranges code = true := by
        simpa [Ranges.contains, inside] using member
      rw [← inductionHypothesis rest further]
      exact (Ranges.contains_dropWhile _ (by grind)).symm

/-- No letter is a digit. -/
theorem isDigit_of_isLetter {c : Char} (letter : isLetter c = true) : isDigit c = false :=
  Ranges.contains_of_apart (by decide +kernel : letters.apart decimalDigits = true) letter

end Text

namespace Piece

/-- No name starts with a digit. -/
theorem startsName_of_isDigit {c : Char} (digit : Text.isDigit c = true) :
    startsName c = false := by
  have underscore : Text.isDigit '_' = false := by decide
  unfold startsName
  rw [Bool.or_eq_false_iff, beq_eq_false_iff_ne]
  constructor
  · cases letter : Text.isLetter c with
    | false => rfl
    | true => exact absurd digit (by simp [Text.isDigit_of_isLetter letter])
  · rintro rfl
    exact absurd digit (by simp [underscore])

/-- One case for each way of recognising a piece, with what is known of its first character.

The properties of pieces are proved through this lemma, so that the order in which the ways are tried
is looked at only here. -/
theorem recognise_elim {motive : Piece → Prop} (nested : Bool) (c : Char) (rest : List Char)
    (word : startsName c = true → motive (word c rest))
    (lineComment : c = '#' → motive (run .lineComment ['#'] (· != '\n') rest))
    (comment : c = '{' → motive (comment nested rest))
    (newline : c = '\n' → motive { kind := .newline, chars := ['\n'], rest })
    (blank : isBlank c = true → motive (run .blank [c] isBlank rest))
    (integer : Text.isDigit c = true → motive (run .integer [c] Text.isDigit rest))
    (quoted : c = '\'' → motive (quoted rest))
    (string : c = '"' → motive (string rest))
    (mark : ∀ kind chars behind, mark? (c :: rest) = some (kind, chars, behind) →
      motive { kind, chars, rest := behind })
    (unknown : c ≠ '\n' → motive
      { kind := .unknown, chars := [c], rest, cause := some (.unknownCharacter c) }) :
    motive (recognise nested c rest) := by
  unfold recognise
  split
  · next starts => exact word starts
  split
  · next same => exact lineComment same
  split
  · next same => exact comment same
  split
  · next same => exact newline same
  next other =>
  split
  · next starts => exact blank starts
  split
  · next starts => exact integer starts
  split
  · next same => exact quoted same
  split
  · next same => exact string same
  split
  · next found => exact mark _ _ _ found
  · exact unknown other

/-- The reserved word for a spelling is a reserved one. -/
theorem reservedWord?_mem {spelling : String} {kind : Kind}
    (found : Kind.reservedWord? spelling = some kind) : kind ∈ Kind.reserved :=
  List.mem_of_find?_eq_some found

/-- A name or reserved word is handed on, and is no character literal. -/
theorem word_kind (c : Char) (rest : List Char) :
    (word c rest).kind.isInternal = false ∧ (word c rest).kind ≠ .character := by
  have words : ∀ kind ∈ Kind.reserved, kind.isInternal = false ∧ kind ≠ .character := by decide
  unfold word
  dsimp only
  cases found : Kind.reservedWord? (String.ofList (run .identifier [c] continuesName rest).chars) with
  | none => decide
  | some kind => exact words kind (reservedWord?_mem found)

/-- A mark is handed on, and is no character literal. -/
theorem mark?_kind {source chars behind : List Char} {kind : Kind}
    (found : mark? source = some (kind, chars, behind)) :
    kind.isInternal = false ∧ kind ≠ .character := by
  unfold mark? at found
  split at found <;> simp at found <;> simp [← found.1, Kind.isInternal]

/-- A character literal is a character between quotes, and nothing is wrong with it. -/
theorem quoted_character {rest : List Char} (literal : (quoted rest).kind = .character) :
    (quoted rest).chars.length = 3 ∧ (quoted rest).cause = none := by
  unfold quoted at literal ⊢
  split
  · next c behind =>
    split
    · exact ⟨rfl, rfl⟩
    · next bad => simp [bad] at literal
  · next other => simp at literal

/-- A character that was read is one between two quotes, and nothing is wrong with it. -/
theorem recognise_character (nested : Bool) (c : Char) (rest : List Char) :
    (recognise nested c rest).kind = .character →
      (recognise nested c rest).chars.length = 3 ∧ (recognise nested c rest).cause = none := by
  refine recognise_elim nested c rest (motive := fun piece => piece.kind = .character →
      piece.chars.length = 3 ∧ piece.cause = none)
    ?word ?lineComment ?comment ?newline ?blank ?integer ?quoted ?string ?mark ?unknown
  case word => exact fun _ literal => absurd literal (word_kind c rest).2
  case comment =>
    intro _
    unfold comment
    split <;> simp
  case quoted => exact fun _ => quoted_character
  case string =>
    intro _
    unfold string
    dsimp only
    split <;> simp
  case mark => exact fun kind chars behind found literal => absurd literal (mark?_kind found).2
  all_goals simp [run]

end Piece

namespace Scanner

/-- A token is of the kind that was recognised. -/
theorem stamp_kind (file : Int) (before behind : Place) (piece : Piece) :
    (stamp file before behind piece).kind = piece.kind := by
  unfold stamp
  dsimp only
  split
  · rfl
  · split <;> rfl

/-- The text of a token is what was recognised, if nothing is wrong with it. -/
theorem stamp_text {file : Int} {before behind : Place} {piece : Piece}
    (sound : piece.cause = none) :
    (stamp file before behind piece).text = String.ofList piece.chars := by
  unfold stamp
  dsimp only
  rw [if_neg (by simp [sound])]
  split <;> rfl

/-- Whatever holds of the tokens of all steps holds of the tokens handed on.

Proof: by induction on the steps, which are those of the source itself. -/
theorem forall_mem_tokens {holds : Token → Prop} (scanner : Scanner)
    (each : ∀ scanner : Scanner, scanner.next.1.token.kind.isInternal = false →
      holds scanner.next.1.token) :
    ∀ tok ∈ scanner.tokens, holds tok := by
  have steps : ∀ scanned ∈ scanner.steps, scanned.token.kind.isInternal = false →
      holds scanned.token := by
    fun_induction steps scanner with
    | case1 scanner more => exact List.forall_mem_singleton.mpr (each scanner)
    | case2 scanner more ih => exact List.forall_mem_cons.mpr ⟨each scanner, ih⟩
  intro tok member
  obtain ⟨taken, kept⟩ := List.mem_filter.mp member
  obtain ⟨scanned, before, rfl⟩ := List.mem_map.mp taken
  exact steps scanned ((List.takeWhile_sublist _).mem before) (by simpa using kept)

/-- No token that is handed on stands for the end. -/
theorem tokens_real (scanner : Scanner) : ∀ tok ∈ scanner.tokens, tok.kind ≠ .endOfInput :=
  forall_mem_tokens scanner fun _ kept atEnd => by simp [atEnd, Kind.isInternal] at kept

/-- A character literal is a character between two quotes. -/
theorem tokens_character (scanner : Scanner) :
    ∀ tok ∈ scanner.tokens, tok.kind = .character → tok.text.toList.length = 3 := by
  refine forall_mem_tokens scanner fun scanner _ => ?_
  unfold next
  split
  · intro literal
    exact absurd literal (by decide : Kind.endOfInput ≠ Kind.character)
  · next c rest source =>
    dsimp only
    intro literal
    rw [stamp_kind] at literal
    obtain ⟨length, sound⟩ := Piece.recognise_character _ _ _ literal
    rw [stamp_text sound, String.toList_ofList, length]

/-- The text of a character literal reaches beyond its first quote. -/
theorem tokens_legible (scanner : Scanner) :
    ∀ tok ∈ scanner.tokens, tok.kind = .character → 2 ≤ tok.text.toList.length := by
  intro tok member literal
  rw [tokens_character scanner tok member literal]
  decide

end Scanner

end WinZig
