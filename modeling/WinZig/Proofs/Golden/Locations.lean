import WinZig.Golden.Location
import WinZig.Proofs.Texts

/-!
# Lines with a location

A line reports something exactly if it does not start with a blank or a tab and a location stands
somewhere in it: a colon, digits, a colon, digits, a colon and a blank. Digits are taken as far as
they go, and a colon is none of them. So nothing is missed by taking them greedily, and where one
attempt fails the next one starts at the next character.

Lines are bytes before they are texts. All characters of a location are bytes by themselves, so a
location can be looked for in the bytes, whatever the others are. A search by positions in the line
is given here, in which a position behind the end is a failure of its own. It never fails, and it
finds what is recognised in the text.
-/

namespace WinZig.Golden

/-! ## Locations -/

section Alphabet

variable {α : Type} (digit : α → Bool) (colon blank : α)

/-- A location stands at the front: a colon, digits, a colon, digits, a colon and a blank. -/
def LocatedFirst (text : List α) : Prop :=
  ∃ line column behind, line ≠ [] ∧ column ≠ [] ∧ (∀ c ∈ line, digit c = true) ∧
    (∀ c ∈ column, digit c = true) ∧
    text = colon :: (line ++ colon :: (column ++ colon :: blank :: behind))

/-- A location stands somewhere. -/
def Located (text : List α) : Prop :=
  ∃ before rest, text = before ++ rest ∧ LocatedFirst digit colon blank rest

variable {digit colon blank} {text : List α} {c : α}

/-- No location stands in nothing. -/
theorem not_located_nil : ¬ Located digit colon blank [] := by
  rintro ⟨before, rest, none, line, column, behind, -, -, -, -, rfl⟩
  simp at none

/-- A location stands at the front or further on. -/
theorem located_cons :
    Located digit colon blank (c :: text) ↔
      LocatedFirst digit colon blank (c :: text) ∨ Located digit colon blank text := by
  constructor
  · rintro ⟨before, rest, same, first⟩
    cases before with
    | nil => exact .inl (same ▸ first)
    | cons d before => exact .inr ⟨before, rest, (List.cons_eq_cons.mp same).2, first⟩
  · rintro (first | ⟨before, rest, rfl, first⟩)
    · exact ⟨[], _, rfl, first⟩
    · exact ⟨c :: before, rest, rfl, first⟩

/-- Digits that are followed by something else are taken as a whole. -/
theorem span_digits {digits : List α} (each : ∀ c ∈ digits, digit c = true)
    (other : digit c = false) (rest : List α) :
    (digits ++ c :: rest).takeWhile digit = digits ∧
      (digits ++ c :: rest).dropWhile digit = c :: rest := by
  rw [List.takeWhile_append_of_pos each, List.dropWhile_append_of_pos each]
  simp [other]

/-- Digits can be taken greedily, since a colon is none of them. -/
theorem locatedFirst_cons (other : digit colon = false) :
    LocatedFirst digit colon blank (c :: text) ↔
      c = colon ∧ text.takeWhile digit ≠ [] ∧
        ∃ rest, text.dropWhile digit = colon :: rest ∧ rest.takeWhile digit ≠ [] ∧
          ∃ behind, rest.dropWhile digit = colon :: blank :: behind := by
  constructor
  · rintro ⟨line, column, behind, some, some', each, each', same⟩
    obtain ⟨rfl, rfl⟩ := List.cons_eq_cons.mp same
    obtain ⟨taken, left⟩ := span_digits each other (column ++ c :: blank :: behind)
    obtain ⟨taken', left'⟩ := span_digits each' other (blank :: behind)
    rw [taken]
    refine ⟨rfl, some, _, left, ?_, behind, left'⟩
    rw [taken']
    exact some'
  · rintro ⟨rfl, some, rest, left, some', behind, left'⟩
    have digits (text : List α) : ∀ c ∈ text.takeWhile digit, digit c = true :=
      fun _ => List.mem_takeWhile_imp
    refine ⟨_, _, behind, some, some', digits text, digits rest, ?_⟩
    rw [← left', List.takeWhile_append_dropWhile, ← left, List.takeWhile_append_dropWhile]

end Alphabet

/-! ## Locations in texts -/

/-- What is behind digits is known exactly when there are some. -/
theorem afterDigits?_eq_some {text rest : List Char} :
    afterDigits? text = some rest ↔
      text.takeWhile Char.isDigit ≠ [] ∧ text.dropWhile Char.isDigit = rest := by
  cases text with
  | nil => simp [afterDigits?]
  | cons c text => by_cases digit : c.isDigit = true <;> simp [afterDigits?, digit]

/-- Looking at the front finds exactly the locations that stand there. -/
theorem startsWithLocation_iff (text : List Char) :
    startsWithLocation text = true ↔ LocatedFirst Char.isDigit ':' ' ' text := by
  constructor
  · intro starts
    unfold startsWithLocation at starts
    split at starts
    · split at starts
      · next rest first =>
        split at starts
        · next behind second =>
          obtain ⟨some, left⟩ := afterDigits?_eq_some.mp first
          obtain ⟨some', left'⟩ := afterDigits?_eq_some.mp second
          exact (locatedFirst_cons (by decide)).mpr
            ⟨rfl, some, rest, left, some', behind, left'⟩
        · contradiction
      · contradiction
    · contradiction
  · intro first
    obtain ⟨line, column, behind, -, -, -, -, same⟩ := id first
    rw [same] at first ⊢
    obtain ⟨-, some, rest, left, some', behind, left'⟩ := (locatedFirst_cons (by decide)).mp first
    simp only [startsWithLocation, afterDigits?_eq_some.mpr ⟨some, left⟩,
      afterDigits?_eq_some.mpr ⟨some', left'⟩]

/-- Looking everywhere finds exactly the locations there are. -/
theorem holdsLocation_iff (text : List Char) :
    holdsLocation text = true ↔ Located Char.isDigit ':' ' ' text := by
  induction text with
  | nil => simp [holdsLocation, not_located_nil]
  | cons c text inductionHypothesis =>
    rw [holdsLocation, Bool.or_eq_true, startsWithLocation_iff, inductionHypothesis, located_cons]

/-- A text reports something exactly if it does not start with a blank or a tab and holds a
location. -/
theorem isReport_iff (text : List Char) :
    isReport text = true ↔
      text.head? ≠ some ' ' ∧ text.head? ≠ some '\t' ∧ Located Char.isDigit ':' ' ' text := by
  unfold isReport
  split
  · simp
  · simp
  · next blank tab =>
    have margin {c : Char} (other : ∀ rest, text ≠ c :: rest) : text.head? ≠ some c := by
      intro first
      obtain ⟨rest, same⟩ := List.head?_eq_some_iff.mp first
      exact other rest same
    rw [holdsLocation_iff, and_iff_right (margin blank), and_iff_right (margin tab)]

/-! ## Locations in bytes -/

/-- Whether a byte is a digit. -/
def isDigitByte (byte : UInt8) : Bool := '0'.toUInt8 ≤ byte && byte ≤ '9'.toUInt8

/-- A location stands somewhere in a line of bytes. -/
def LocatedBytes (line : List UInt8) : Prop := Located isDigitByte ':'.toUInt8 ' '.toUInt8 line

/-- A byte decodes to a digit exactly when it is one. -/
theorem isDigit_ofByte (byte : UInt8) : (Text.ofByte byte).isDigit = isDigitByte byte := by
  have code := Text.toNat_ofByte byte
  rw [Bool.eq_iff_iff, isDigitByte, Bool.and_eq_true, decide_eq_true_eq, decide_eq_true_eq,
    UInt8.le_iff_toNat_le, UInt8.le_iff_toNat_le, ← code, Char.isDigit, Bool.and_eq_true,
    decide_eq_true_eq, decide_eq_true_eq]
  exact Iff.rfl

/-- Digits are plain bytes. -/
theorem isAscii_of_isDigitByte {byte : UInt8} (digit : isDigitByte byte = true) :
    Text.IsAscii byte := by
  have upper : byte ≤ '9'.toUInt8 := by simpa [isDigitByte] using (Bool.and_eq_true_iff.mp digit).2
  exact UInt8.lt_of_le_of_lt upper (by decide)

/-- Digits decode byte by byte. -/
theorem decode_digits {digits : List UInt8} (each : ∀ byte ∈ digits, isDigitByte byte = true) :
    Text.decode digits = digits.map Text.ofByte :=
  Text.decode_of_isAscii fun byte member => isAscii_of_isDigitByte (each byte member)

/-- Digits are decoded from digits only. -/
theorem digits_of_decode {digits : List UInt8}
    (each : ∀ c ∈ Text.decode digits, c.isDigit = true) :
    ∀ byte ∈ digits, isDigitByte byte = true := by
  have small : ∀ c ∈ Text.decode digits, c.toNat < 0x80 := by
    intro c member
    have digit := each c member
    simp only [Char.isDigit, Bool.and_eq_true, decide_eq_true_eq] at digit
    exact Nat.lt_of_le_of_lt (show c.toNat ≤ 57 from digit.2) (by decide)
  rw [Text.decode_of_isAscii (Text.isAscii_of_decode small), List.forall_mem_map] at each
  intro byte member
  rw [← isDigit_ofByte]
  exact each byte member

/-- A location stands in a text exactly if it stands in the bytes. -/
theorem located_decode (line : List UInt8) :
    Located Char.isDigit ':' ' ' (Text.decode line) ↔ LocatedBytes line := by
  have colon : ':'.toNat < 0x80 := by decide
  have blank : ' '.toNat < 0x80 := by decide
  constructor
  · rintro ⟨before, rest, same, row, column, behind, some, some', each, each', rfl⟩
    obtain ⟨front, first, rfl, -, first_eq⟩ := (Text.decode_eq_append colon).mp same
    obtain ⟨rowBytes, second, rfl, rfl, second_eq⟩ := (Text.decode_eq_append colon).mp first_eq
    obtain ⟨columnBytes, third, rfl, rfl, third_eq⟩ := (Text.decode_eq_append colon).mp second_eq
    have starts : (Text.decode third).head? = Option.some ' ' := by rw [third_eq, List.head?_cons]
    obtain ⟨rest, rfl⟩ := List.head?_eq_some_iff.mp ((Text.head?_decode blank).mp starts)
    exact ⟨front, _, rfl, rowBytes, columnBytes, rest, mt Text.decode_eq_nil.mpr some,
      mt Text.decode_eq_nil.mpr some', digits_of_decode each, digits_of_decode each', rfl⟩
  · rintro ⟨before, rest, rfl, row, column, behind, some, some', each, each', rfl⟩
    have digits {bytes : List UInt8} (each : ∀ byte ∈ bytes, isDigitByte byte = true) :
        ∀ c ∈ Text.decode bytes, c.isDigit = true := by
      rw [decode_digits each, List.forall_mem_map]
      intro byte member
      rw [isDigit_ofByte]
      exact each byte member
    refine ⟨Text.decode before, _, ?_, Text.decode row, Text.decode column, Text.decode behind,
      mt Text.decode_eq_nil.mp some, mt Text.decode_eq_nil.mp some', digits each, digits each', rfl⟩
    refine (Text.decode_eq_append colon).mpr ⟨before, _, rfl, rfl, ?_⟩
    refine (Text.decode_eq_append colon).mpr ⟨row, _, rfl, rfl, ?_⟩
    refine (Text.decode_eq_append colon).mpr ⟨column, _, rfl, rfl, ?_⟩
    rw [Text.decode_cons (Text.isAscii_toUInt8 blank), Text.ofByte_toUInt8 blank]

/-! ## The search by positions -/

/-- Where the digits from a position on end. It fails if the line is read behind its end. -/
def digitsEnd? (bytes : List UInt8) (position : Nat) : Option Nat :=
  if position < bytes.length then do
    let byte ← bytes[position]?
    if isDigitByte byte then digitsEnd? bytes (position + 1) else some position
  else some position
termination_by bytes.length - position

/-- Whether a colon and a blank stand at a position. -/
def closesAt? (bytes : List UInt8) (position : Nat) : Option Bool :=
  if position + 1 < bytes.length then do
    if (← bytes[position]?) ≠ ':'.toUInt8 then some false else
    return (← bytes[position + 1]?) == ' '.toUInt8
  else some false

/-- Whether a location starts at a position. -/
def locationAt? (bytes : List UInt8) (position : Nat) : Option Bool := do
  if (← bytes[position]?) ≠ ':'.toUInt8 then some false else
  let lineEnd ← digitsEnd? bytes (position + 1)
  if lineEnd = position + 1 ∨ bytes.length ≤ lineEnd then some false else
  if (← bytes[lineEnd]?) ≠ ':'.toUInt8 then some false else
  let columnEnd ← digitsEnd? bytes (lineEnd + 1)
  if columnEnd = lineEnd + 1 then some false else closesAt? bytes columnEnd

/-- Whether a location starts at a position or behind it. -/
def locationFrom? (bytes : List UInt8) (position : Nat) : Option Bool :=
  if position < bytes.length then do
    if ← locationAt? bytes position then some true else locationFrom? bytes (position + 1)
  else some false
termination_by bytes.length - position

/-- Whether a line of bytes reports something, by positions in it. It fails if the line is read behind
its end. -/
def isReportBytes? (bytes : List UInt8) : Option Bool :=
  if bytes.head? = some ' '.toUInt8 ∨ bytes.head? = some '\t'.toUInt8 then some false
  else locationFrom? bytes 0

/-- What is read at a position is what the rest of the line starts with. -/
theorem of_drop_eq_cons {bytes rest : List UInt8} {position : Nat} {byte : UInt8}
    (here : bytes.drop position = byte :: rest) :
    position < bytes.length ∧ bytes[position]? = some byte ∧ bytes.drop (position + 1) = rest := by
  have length := congrArg List.length here
  rw [List.length_drop, List.length_cons] at length
  refine ⟨by omega, ?_, ?_⟩
  · rw [← List.head?_drop, here, List.head?_cons]
  · rw [← List.drop_drop, here, List.drop_succ_cons, List.drop_zero]

/-- The loop over digits ends where they end in the rest of the line. -/
theorem digitsEnd?_spec {bytes rest : List UInt8} {position : Nat}
    (here : bytes.drop position = rest) :
    ∃ stop, digitsEnd? bytes position = some stop ∧ position ≤ stop ∧
      (stop = position ↔ rest.takeWhile isDigitByte = []) ∧
      bytes.drop stop = rest.dropWhile isDigitByte := by
  induction rest generalizing position with
  | nil =>
    have outside : ¬ position < bytes.length := Nat.not_lt.mpr (List.drop_eq_nil_iff.mp here)
    rw [digitsEnd?, if_neg outside]
    exact ⟨position, rfl, Nat.le_refl _, by simp, here⟩
  | cons byte rest inductionHypothesis =>
    obtain ⟨inside, read, follows⟩ := of_drop_eq_cons here
    rw [digitsEnd?, if_pos inside, read]
    simp only [Option.bind_eq_bind, Option.bind_some]
    by_cases digit : isDigitByte byte = true
    · obtain ⟨stop, run, further, -, left⟩ := inductionHypothesis follows
      rw [if_pos digit, List.takeWhile_cons_of_pos digit, List.dropWhile_cons_of_pos digit]
      refine ⟨stop, run, by omega, ?_, left⟩
      simp only [reduceCtorEq, iff_false]
      omega
    · rw [if_neg digit, List.takeWhile_cons_of_neg digit, List.dropWhile_cons_of_neg digit]
      exact ⟨position, rfl, Nat.le_refl _, by simp, here⟩

/-- Looking for the end of a location never runs past the text, and finds exactly a colon and a
blank. -/
theorem closesAt?_spec {bytes rest : List UInt8} {position : Nat}
    (here : bytes.drop position = rest) :
    ∃ found, closesAt? bytes position = some found ∧
      (found = true ↔ ∃ behind, rest = ':'.toUInt8 :: ' '.toUInt8 :: behind) := by
  have length := congrArg List.length here
  rw [List.length_drop] at length
  rcases rest with _ | ⟨byte, _ | ⟨next, behind⟩⟩
  · rw [closesAt?, if_neg (by simp at length; omega)]
    exact ⟨false, rfl, by simp⟩
  · rw [closesAt?, if_neg (by simp at length; omega)]
    exact ⟨false, rfl, by simp⟩
  · obtain ⟨-, first, follows⟩ := of_drop_eq_cons here
    obtain ⟨inside, second, -⟩ := of_drop_eq_cons follows
    rw [closesAt?, if_pos inside, first, second]
    by_cases colon : byte = ':'.toUInt8
    · exact ⟨next == ' '.toUInt8, if_neg (not_not_intro colon), by simp [colon]⟩
    · exact ⟨false, if_pos colon, by simp [colon]⟩

/-- The step: an attempt at a position reads within the line, and it succeeds exactly if a location
starts there. -/
theorem locationAt?_spec {bytes rest : List UInt8} {position : Nat} {byte : UInt8}
    (here : bytes.drop position = byte :: rest) :
    ∃ found, locationAt? bytes position = some found ∧
      (found = true ↔ LocatedFirst isDigitByte ':'.toUInt8 ' '.toUInt8 (byte :: rest)) := by
  obtain ⟨-, opening, follows⟩ := of_drop_eq_cons here
  obtain ⟨lineEnd, lineRun, -, noLine, afterLine⟩ := digitsEnd?_spec follows
  rw [locatedFirst_cons (by decide)]
  simp only [locationAt?, opening, lineRun, Option.bind_eq_bind, Option.bind_some, noLine,
    ← List.drop_eq_nil_iff, afterLine]
  -- The tests are made in the order of the parts, and each that fails refutes the location.
  by_cases colon : byte = ':'.toUInt8
  swap
  · exact ⟨false, if_pos colon, by simp [colon]⟩
  rw [if_neg (not_not_intro colon)]
  by_cases digits : rest.takeWhile isDigitByte = []
  · exact ⟨false, if_pos (.inl digits), by simp [digits]⟩
  cases left : rest.dropWhile isDigitByte with
  | nil => exact ⟨false, if_pos (.inr rfl), by simp⟩
  | cons mark rest' =>
    rw [left] at afterLine
    obtain ⟨-, second, follows'⟩ := of_drop_eq_cons afterLine
    obtain ⟨columnEnd, columnRun, -, noColumn, afterColumn⟩ := digitsEnd?_spec follows'
    obtain ⟨found, closes, exactly⟩ := closesAt?_spec afterColumn
    rw [if_neg (by simp [digits]), second, columnRun]
    simp only [Option.bind_some, noColumn, closes]
    by_cases colon' : mark = ':'.toUInt8
    swap
    · exact ⟨false, if_pos colon', by simp [colon']⟩
    rw [if_neg (not_not_intro colon')]
    by_cases digits' : rest'.takeWhile isDigitByte = []
    · refine ⟨false, if_pos digits', iff_of_false Bool.false_ne_true ?_⟩
      rintro ⟨-, -, other, same, some, -⟩
      obtain ⟨-, rfl⟩ := List.cons_eq_cons.mp same
      exact some digits'
    · refine ⟨found, if_neg digits', ?_⟩
      rw [exactly]
      constructor
      · rintro ⟨behind, closing⟩
        exact ⟨colon, digits, rest', by rw [colon'], digits', behind, closing⟩
      · rintro ⟨-, -, other, same, -, closing⟩
        obtain ⟨-, rfl⟩ := List.cons_eq_cons.mp same
        exact closing

/-- The run: attempts are made from position to position. -/
theorem locationFrom?_spec {bytes rest : List UInt8} {position : Nat}
    (here : bytes.drop position = rest) :
    ∃ found, locationFrom? bytes position = some found ∧
      (found = true ↔ LocatedBytes rest) := by
  induction rest generalizing position with
  | nil =>
    have outside : ¬ position < bytes.length := Nat.not_lt.mpr (List.drop_eq_nil_iff.mp here)
    rw [locationFrom?, if_neg outside]
    exact ⟨false, rfl, by simp [LocatedBytes, not_located_nil]⟩
  | cons byte rest inductionHypothesis =>
    obtain ⟨inside, -, follows⟩ := of_drop_eq_cons here
    obtain ⟨first, attempt, starts⟩ := locationAt?_spec here
    obtain ⟨later, others, stands⟩ := inductionHypothesis follows
    rw [locationFrom?, if_pos inside, attempt, others, LocatedBytes, located_cons, ← starts]
    cases first with
    | true => exact ⟨true, rfl, by simp⟩
    | false => exact ⟨later, rfl, stands.trans (by simp [LocatedBytes])⟩

/-- A line of any bytes is recognised as a report exactly if it does not start with a blank or a tab
and a location stands somewhere in it. The search by positions comes to the same answer, and it reads
the line at no position behind its end. -/
theorem isReport_exact (bytes : List UInt8) :
    (isReport (Text.decode bytes) = true ↔
      bytes.head? ≠ some ' '.toUInt8 ∧ bytes.head? ≠ some '\t'.toUInt8 ∧ LocatedBytes bytes) ∧
    isReportBytes? bytes = some (isReport (Text.decode bytes)) := by
  have exactly : isReport (Text.decode bytes) = true ↔
      bytes.head? ≠ some ' '.toUInt8 ∧ bytes.head? ≠ some '\t'.toUInt8 ∧ LocatedBytes bytes := by
    rw [isReport_iff, located_decode, ne_eq, Text.head?_decode (by decide), ne_eq,
      Text.head?_decode (by decide)]
  refine ⟨exactly, ?_⟩
  obtain ⟨found, search, stands⟩ := locationFrom?_spec (List.drop_zero (l := bytes))
  rw [isReportBytes?, search]
  split
  · next indented =>
    have refuted : ¬ isReport (Text.decode bytes) = true := by
      rw [exactly]
      tauto
    rw [Bool.eq_false_iff.mpr refuted]
  · next margin =>
    rw [not_or] at margin
    rw [Option.some.injEq, Bool.eq_iff_iff, stands, exactly]
    exact (and_iff_right margin.1).trans (and_iff_right margin.2) |>.symm

end WinZig.Golden
