import WinZig.Parser.Statement
import WinZig.Proofs.Scanning

/-!
# Integer literals

An integer literal is read as the number that its text writes in decimal, or not at all: the number
never wraps. What a text writes is said here by place value, and only ASCII digits have one, while
the scanner takes the digits of every script into an integer token.

Reading goes through the digits from the left and multiplies what it has by ten, so its result is a
sum over the places; a sign and the bounds of 64 bits are looked at on the whole number.
-/

namespace WinZig

namespace Text

variable {digits : List Char} {text : String} {value : Int}

/-! ## Numbers in decimal -/

/-- The digit that a character stands for. -/
def digitValue (c : Char) : Nat := c.toNat - '0'.toNat

/-- The number that digits write; the last of them counts ones. -/
def placeValue (digits : List Char) : Nat := Nat.ofDigits 10 (digits.reverse.map digitValue)

/-- One or more ASCII digits. -/
structure Numeral (digits : List Char) : Prop where
  nonempty : digits ≠ []
  ascii : ∀ c ∈ digits, '0' ≤ c ∧ c ≤ '9'

/-- A text writes an integer: perhaps one sign, then a numeral. -/
inductive Writes : String → Int → Prop
  | unsigned {digits : List Char} (numeral : Numeral digits) :
      Writes (String.ofList digits) (placeValue digits)
  | plus {digits : List Char} (numeral : Numeral digits) :
      Writes (String.ofList ('+' :: digits)) (placeValue digits)
  | minus {digits : List Char} (numeral : Numeral digits) :
      Writes (String.ofList ('-' :: digits)) (-placeValue digits)

/-- A text writes an integer of 64 bits. -/
structure WritesInt64 (text : String) (value : Int) : Prop where
  writes : Writes text value
  least : -2 ^ 63 ≤ value
  most : value ≤ 2 ^ 63 - 1

/-- One more digit is worth ten times the digits before it and itself. -/
theorem placeValue_append (digits : List Char) (c : Char) :
    placeValue (digits ++ [c]) = 10 * placeValue digits + digitValue c := by
  simp [placeValue, Nat.ofDigits_cons, Nat.add_comm]

/-- Going through the digits from the left adds up the places. -/
theorem foldl_eq_placeValue (digits : List Char) :
    digits.foldl (fun value digit => 10 * value + (digit.toNat - '0'.toNat)) 0
      = placeValue digits := by
  induction digits using List.reverseRecOn with
  | nil => rfl
  | append_singleton digits c inductionHypothesis =>
    rw [List.foldl_concat, inductionHypothesis, placeValue_append, digitValue]

/-- Digits are the characters from zero to nine. -/
theorem isDigit_iff {c : Char} : c.isDigit = true ↔ '0' ≤ c ∧ c ≤ '9' := by
  simp [Char.isDigit, Char.le_def]

/-- The value of a numeral is that of its digits by their places. -/
theorem digitsValue?_of_numeral (numeral : Numeral digits) :
    digitsValue? digits = some (placeValue digits) := by
  have ascii : digits.all Char.isDigit = true :=
    List.all_eq_true.mpr fun c member => isDigit_iff.mpr (numeral.ascii c member)
  rw [digitsValue?, if_neg (by simp [numeral.nonempty, ascii]), foldl_eq_placeValue]

/-- Only numerals have a value. -/
theorem digitsValue?_eq_some {number : Nat} :
    digitsValue? digits = some number ↔ Numeral digits ∧ placeValue digits = number := by
  constructor
  · intro read
    have numeral : Numeral digits := by
      unfold digitsValue? at read
      split at read
      · contradiction
      · next proper =>
        simp only [Bool.or_eq_true, List.isEmpty_iff, Bool.not_eq_true', not_or,
          Bool.not_eq_false, List.all_eq_true] at proper
        exact ⟨proper.1, fun c member => isDigit_iff.mp (proper.2 c member)⟩
    rw [digitsValue?_of_numeral numeral] at read
    exact ⟨numeral, Option.some.inj read⟩
  · rintro ⟨numeral, rfl⟩
    exact digitsValue?_of_numeral numeral

/-- A numeral starts with no sign. -/
theorem Numeral.head_ne {c : Char} (numeral : Numeral (c :: digits)) : c ≠ '+' ∧ c ≠ '-' := by
  have digit := numeral.ascii c List.mem_cons_self
  constructor <;> rintro rfl <;> revert digit <;> decide

/-- A numeral without a sign is worth its digits. -/
theorem signedValue?_of_numeral (numeral : Numeral digits) :
    signedValue? digits = (digitsValue? digits).map Int.ofNat := by
  unfold signedValue?
  split
  · exact absurd rfl numeral.head_ne.1
  · exact absurd rfl numeral.head_ne.2
  · rfl

/-- The signed value of a text is what the text writes. -/
theorem signedValue?_eq_some : signedValue? text.toList = some value ↔ Writes text value := by
  constructor
  · intro read
    unfold signedValue? at read
    rw [← text.ofList_toList]
    split at read
    · next digits same =>
      obtain ⟨number, inner, rfl⟩ := Option.map_eq_some_iff.mp read
      obtain ⟨numeral, rfl⟩ := digitsValue?_eq_some.mp inner
      exact same ▸ .plus numeral
    · next digits same =>
      obtain ⟨number, inner, rfl⟩ := Option.map_eq_some_iff.mp read
      obtain ⟨numeral, rfl⟩ := digitsValue?_eq_some.mp inner
      exact same ▸ .minus numeral
    · obtain ⟨number, inner, rfl⟩ := Option.map_eq_some_iff.mp read
      obtain ⟨numeral, rfl⟩ := digitsValue?_eq_some.mp inner
      exact .unsigned numeral
  · intro writes
    cases writes with
    | unsigned numeral =>
      rw [String.toList_ofList, signedValue?_of_numeral numeral, digitsValue?_of_numeral numeral]
      rfl
    | plus numeral | minus numeral =>
      rw [String.toList_ofList, signedValue?, digitsValue?_of_numeral numeral]
      rfl

/-- A text is read as the integer that it writes, if 64 bits hold it. -/
theorem int64?_eq_some : int64? text = some value ↔ WritesInt64 text value := by
  have bound : Int.pow 2 63 = 2 ^ 63 := rfl
  rw [int64?, Option.filter_eq_some_iff, signedValue?_eq_some, decide_eq_true_iff, bound]
  constructor
  · rintro ⟨writes, least, most⟩
    exact ⟨writes, least, Int.le_sub_one_of_lt most⟩
  · rintro ⟨writes, least, most⟩
    exact ⟨writes, least, Int.lt_of_le_sub_one most⟩

/-- A text has no value in range exactly when it writes none. -/
theorem int64?_eq_none : int64? text = none ↔ ¬ ∃ value, WritesInt64 text value := by
  simp only [← int64?_eq_some, ← Option.isSome_iff_exists, Option.not_isSome_iff_eq_none]

end Text

/-! ## Integer tokens -/

namespace Piece

/-- No word is an integer. -/
theorem word_kind_ne_integer (c : Char) (rest : List Char) : (word c rest).kind ≠ .integer := by
  unfold word
  dsimp only
  cases found :
    Kind.reservedWord? (String.ofList (run .identifier [c] continuesName rest).chars) with
  | none => decide
  | some kind =>
    exact (by decide : ∀ kind ∈ Kind.reserved, kind ≠ .integer) kind (reservedWord?_mem found)

/-- No mark is an integer. -/
theorem mark?_kind_ne_integer {source chars behind : List Char} {kind : Kind}
    (found : mark? source = some (kind, chars, behind)) : kind ≠ .integer := by
  unfold mark? at found
  split at found <;> simp at found <;> simp [← found.1]

/-- Integers are runs of digits, of whatever script. -/
theorem recognise_kind_integer (nested : Bool) (c : Char) (rest : List Char) :
    (recognise nested c rest).kind = .integer →
      (recognise nested c rest).cause = none ∧ (recognise nested c rest).chars ≠ [] ∧
        ∀ d ∈ (recognise nested c rest).chars, Text.isDigit d = true := by
  refine recognise_elim nested c rest (motive := fun piece => piece.kind = .integer →
      piece.cause = none ∧ piece.chars ≠ [] ∧ ∀ d ∈ piece.chars, Text.isDigit d = true)
    ?word ?lineComment ?comment ?newline ?blank ?integer ?quoted ?string ?mark ?unknown
  case word => exact fun _ literal => absurd literal (word_kind_ne_integer c rest)
  case comment =>
    intro _
    unfold comment
    split <;> simp
  case integer =>
    intro first _
    refine ⟨rfl, List.cons_ne_nil _ _, List.forall_mem_cons.mpr ⟨first, fun d member => ?_⟩⟩
    exact (List.mem_takeWhile_imp member :)
  case quoted =>
    intro _
    unfold quoted
    split
    · split <;> simp
    · simp
  case string =>
    intro _
    unfold string
    dsimp only
    split <;> simp
  case mark =>
    exact fun kind chars behind found literal => absurd literal (mark?_kind_ne_integer found)
  all_goals simp [run]

end Piece

/-- The text of an integer token is one or more digits, of whatever script. -/
theorem Scanner.tokens_integer (scanner : Scanner) :
    ∀ tok ∈ scanner.tokens, tok.kind = .integer →
      tok.text.toList ≠ [] ∧ ∀ c ∈ tok.text.toList, Text.isDigit c = true := by
  refine forall_mem_tokens scanner fun scanner _ => ?_
  unfold next
  split
  · intro literal
    exact absurd literal (by decide : Kind.endOfInput ≠ Kind.integer)
  · next c rest source =>
    dsimp only
    intro literal
    rw [stamp_kind] at literal
    obtain ⟨sound, nonempty, digits⟩ := Piece.recognise_kind_integer _ _ _ literal
    rw [stamp_text sound, String.toList_ofList]
    exact ⟨nonempty, digits⟩

/-- A text of digits has no sign, so it writes an integer only if its digits are ASCII. -/
theorem Text.writes_of_digits {text : String} {value : Int}
    (digits : ∀ c ∈ text.toList, isDigit c = true) (writes : Writes text value) :
    Numeral text.toList ∧ value = placeValue text.toList := by
  have signs : isDigit '+' = false ∧ isDigit '-' = false := by decide
  cases writes with
  | unsigned numeral =>
    rw [String.toList_ofList]
    exact ⟨numeral, rfl⟩
  | plus | minus =>
    rw [String.toList_ofList] at digits
    exact absurd (digits _ List.mem_cons_self) (by simp [signs])

namespace Parser

variable {cursor : Cursor} {tok : Token} {rest : List Token}

/-! ## Literals -/

/-- The cursor behind an integer literal: one token was read, and remarked on if 32 bits do not hold
its value and the warning for that is on. -/
def behindInteger (cursor : Cursor) (tok : Token) (rest : List Token) (value : Int) : Cursor where
  rest := rest
  stop := cursor.stop
  last := tok
  index := cursor.index + 1
  shown := cursor.shown
  notices := cursor.notices ++
    if 2 ^ 31 - 1 < value ∧ cursor.shown .overflow then [⟨tok, .wideInteger tok.text⟩] else []

/-- The token at the cursor is refused as an integer literal. -/
def RefusesInteger (cursor : Cursor) (tok : Token) : Prop :=
  ∃ fault, integer cursor = .failed fault cursor.index cursor.notices ∧ fault.token = tok ∧
    fault.message = s!"Integer literal out of range: '{tok.text}'"

/-- An integer is its token's value, and fails if the value is out of range. -/
theorem integer_eq (ahead : cursor.rest = tok :: rest) :
    integer cursor =
      match Text.int64? tok.text with
      | none => .failed ⟨tok, .integerRange⟩ cursor.index cursor.notices
      | some value => .ok (.integer tok .unknown value) (behindInteger cursor tok rest value) := by
  have shifted : shift cursor
      = .ok tok { cursor with rest, last := tok, index := cursor.index + 1 } := by
    rw [shift, ahead]
  have widest : widestInteger = 2 ^ 31 - 1 := rfl
  simp only [integer, bind, andThen, shifted, widest]
  cases Text.int64? tok.text with
  | none => rfl
  | some value =>
    by_cases wide : 2 ^ 31 - 1 < value
    · simp only [behindInteger, wide, if_true, true_and]
      rfl
    · simp only [behindInteger, wide, false_and, if_false, List.append_nil]
      rfl

/-- An integer is parsed exactly when its token writes a value in range. -/
theorem integer_eq_ok (ahead : cursor.rest = tok :: rest) {value : Int} {behind : Cursor} :
    integer cursor = .ok (.integer tok .unknown value) behind ↔
      Text.WritesInt64 tok.text value ∧ behind = behindInteger cursor tok rest value := by
  rw [integer_eq ahead, ← Text.int64?_eq_some]
  cases Text.int64? tok.text with
  | none => simp
  | some number =>
    simp only [Reply.ok.injEq, Node.integer.injEq, true_and, Option.some.injEq]
    constructor
    · rintro ⟨rfl, same⟩
      exact ⟨rfl, same.symm⟩
    · rintro ⟨rfl, same⟩
      exact ⟨rfl, same.symm⟩

/-- A token that writes no value in range is refused. -/
theorem refusesInteger_of_unwritten (ahead : cursor.rest = tok :: rest)
    (unwritten : ¬ ∃ value, Text.WritesInt64 tok.text value) : RefusesInteger cursor tok := by
  rw [← Text.int64?_eq_none] at unwritten
  exact ⟨⟨tok, .integerRange⟩, by rw [integer_eq ahead, unwritten], rfl, rfl⟩

/-- Where an operand or the value of a case is read, an integer token is read as a literal. -/
theorem reads_integer (ahead : cursor.rest = tok :: rest) (literal : tok.kind = .integer) :
    caseValue cursor = integer cursor ∧
      ∀ enabled bound, operand enabled (bound + 1) cursor = integer cursor := by
  have front : cursor.current = tok := by rw [Cursor.current, ahead, List.headD_cons]
  constructor
  · simp only [caseValue, bind, andThen, current, front, literal]
  · intro enabled bound
    simp only [operand, bind, andThen, current, front, literal]

/-- Integer literals never wrap. An integer token is read as a literal of some value exactly if its
text writes that value, with at most one sign and ASCII digits, and 64 bits hold it; a remark is
made on it exactly if 32 bits do not and the warning for that is on. Any other is refused, and the token is blamed for it.

So a literal of a source has the decimal value of its token. It is never negative, for the scanner
takes no sign into an integer token, and a literal with a digit of another script is refused. -/
theorem integer_never_wraps (ahead : cursor.rest = tok :: rest) (literal : tok.kind = .integer) :
    (∀ value behind, integer cursor = .ok (.integer tok .unknown value) behind ↔
      Text.WritesInt64 tok.text value ∧ behind = behindInteger cursor tok rest value) ∧
    ((¬ ∃ value, Text.WritesInt64 tok.text value) → RefusesInteger cursor tok) ∧
    (caseValue cursor = integer cursor ∧
      ∀ enabled bound, operand enabled (bound + 1) cursor = integer cursor) ∧
    (∀ scanner : Scanner, tok ∈ scanner.tokens →
      (∀ value, (∃ behind, integer cursor = .ok (.integer tok .unknown value) behind) ↔
        (∀ c ∈ tok.text.toList, '0' ≤ c ∧ c ≤ '9') ∧ value = Text.placeValue tok.text.toList ∧
          0 ≤ value ∧ value ≤ 2 ^ 63 - 1) ∧
      ((∃ c ∈ tok.text.toList, ¬ ('0' ≤ c ∧ c ≤ '9')) → RefusesInteger cursor tok)) := by
  refine ⟨fun _ _ => integer_eq_ok ahead, refusesInteger_of_unwritten ahead,
    reads_integer ahead literal, fun scanner scanned => ?_⟩
  obtain ⟨nonempty, digits⟩ := scanner.tokens_integer tok scanned literal
  constructor
  · intro value
    simp only [integer_eq_ok ahead, exists_and_left, exists_eq, and_true]
    constructor
    · rintro ⟨writes, -, most⟩
      obtain ⟨numeral, rfl⟩ := Text.writes_of_digits digits writes
      exact ⟨numeral.ascii, rfl, Int.natCast_nonneg _, most⟩
    · rintro ⟨ascii, rfl, -, most⟩
      have writes := Text.Writes.unsigned ⟨nonempty, ascii⟩
      rw [String.ofList_toList] at writes
      exact ⟨writes, by omega, most⟩
  · rintro ⟨c, member, foreign⟩
    apply refusesInteger_of_unwritten ahead
    rintro ⟨value, writes, -, -⟩
    exact foreign ((Text.writes_of_digits digits writes).1.ascii c member)

/-- The only token of a source that is one integer. -/
def loneInteger (text : String) : Token :=
  { kind := .integer, text, line := 1, column := text.length, length := text.length }

/-- The start of the tokens of a source. -/
def startOf (source : String) : Cursor := .ofTokens ({ rest := source.toList } : Scanner).tokens

/-- The largest literal, behind some zeros, is accepted and remarked on. The one after it is
refused, and so is a literal with a digit of another script. A token with a sign, which is in no
source, may be the least integer. -/
theorem integer_never_wraps_extremes :
    (∃ behind, integer (startOf "0009223372036854775807")
        = .ok (.integer (loneInteger "0009223372036854775807") .unknown (2 ^ 63 - 1)) behind ∧
      behind.notices.length = 1) ∧
    RefusesInteger (startOf "9223372036854775808") (loneInteger "9223372036854775808") ∧
    RefusesInteger (startOf "1٣") (loneInteger "1٣") ∧
    ∃ behind, integer (.ofTokens [loneInteger "-9223372036854775808"])
      = .ok (.integer (loneInteger "-9223372036854775808") .unknown (-2 ^ 63)) behind := by
  have largest : (startOf "0009223372036854775807").rest
      = [loneInteger "0009223372036854775807"] := by
    decide +kernel
  have tooLarge : (startOf "9223372036854775808").rest = [loneInteger "9223372036854775808"] := by
    decide +kernel
  have foreign : (startOf "1٣").rest = [loneInteger "1٣"] := by decide +kernel
  have least : (Cursor.ofTokens [loneInteger "-9223372036854775808"]).rest
      = [loneInteger "-9223372036854775808"] := rfl
  refine ⟨⟨_, ((integer_never_wraps largest rfl).1 _ _).mpr ⟨?_, rfl⟩, rfl⟩, ?_, ?_, _,
    ((integer_never_wraps least rfl).1 _ _).mpr ⟨?_, rfl⟩⟩
  · exact Text.int64?_eq_some.mp (by decide)
  · exact (integer_never_wraps tooLarge rfl).2.1 (Text.int64?_eq_none.mp (by decide))
  · have scanned : loneInteger "1٣" ∈ ({ rest := "1٣".toList } : Scanner).tokens :=
      (congrArg (loneInteger "1٣" ∈ ·) foreign).mpr List.mem_cons_self
    exact ((integer_never_wraps foreign rfl).2.2.2 _ scanned).2 ⟨'٣', by decide, by decide⟩
  · exact Text.int64?_eq_some.mp (by decide)

end Parser

end WinZig
