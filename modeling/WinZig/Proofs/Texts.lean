import Mathlib
import WinZig.Text.Cut
import WinZig.Text.Utf8

/-!
# Texts

A text starts with a front exactly if it is the front and something behind it. So a substitution can
be followed from left to right: an occurrence at the front is replaced, and a character with which no
occurrence starts is kept.

Bytes are decoded from left to right too. A byte below 128 is a character by itself and never part of
another one, whether the bytes around it are well formed or not. So such characters stand in a text
exactly where their bytes stand, and the bytes before and behind are decoded each by themselves.
-/

namespace WinZig.Text

/-! ## Fronts and substitutions -/

section Characters

variable {front text rest part : List Char} {c : Char}

/-- What is behind a front is known exactly when the text starts with it. -/
theorem after?_eq_some : after? front text = some rest ↔ text = front ++ rest := by
  fun_induction after? front text with
  | case1 text => simp
  | case2 expected front => simp
  | case3 front c text inductionHypothesis => simp [inductionHypothesis]
  | case4 expected front c text other => simp [Ne.symm other]

/-- A text is split at all occurrences of a character, so none is left in the pieces. -/
theorem notMem_of_mem_splitOn {piece : List Char} (member : piece ∈ text.splitOn c) : c ∉ piece := by
  induction text generalizing piece with
  | nil => simp_all
  | cons first rest inductionHypothesis =>
    obtain ⟨ahead, others, split⟩ := List.exists_cons_of_ne_nil (List.splitOn_ne_nil c rest)
    rw [split] at inductionHypothesis
    rw [List.splitOn_cons_eq_if_modifyHead, split, List.modifyHead_cons] at member
    split at member
    · rcases List.mem_cons.mp member with rfl | listed
      · exact List.not_mem_nil
      · exact inductionHypothesis listed
    · next other =>
      rcases List.mem_cons.mp member with rfl | listed
      · rw [List.mem_cons, not_or]
        exact ⟨fun same => other (beq_iff_eq.mpr same.symm), inductionHypothesis List.mem_cons_self⟩
      · exact inductionHypothesis (List.mem_cons_of_mem _ listed)

/-- There is nothing to replace in nothing. -/
theorem replaceAll_nil (part replacement : List Char) : replaceAll part replacement [] = [] := by
  rw [replaceAll]

/-- An occurrence at the front is replaced. -/
theorem replaceAll_append (nonempty : part ≠ []) (replacement rest : List Char) :
    replaceAll part replacement (part ++ rest)
      = replacement ++ replaceAll part replacement rest := by
  obtain ⟨c, others, rfl⟩ := List.exists_cons_of_ne_nil nonempty
  have found : after? (c :: others) (c :: (others ++ rest)) = some rest := after?_eq_some.mpr rfl
  have shorter : rest.length < (c :: (others ++ rest)).length := by
    simp only [List.length_cons, List.length_append]
    omega
  rw [List.cons_append, replaceAll, found]
  exact if_pos shorter

/-- A character with which no occurrence starts is kept. -/
theorem replaceAll_cons (absent : ∀ rest, c :: text ≠ part ++ rest) (replacement : List Char) :
    replaceAll part replacement (c :: text) = c :: replaceAll part replacement text := by
  have nothing : after? part (c :: text) = none :=
    Option.eq_none_iff_forall_ne_some.mpr fun rest found => absent rest (after?_eq_some.mp found)
  rw [replaceAll, nothing]

end Characters

/-! ## Characters of one byte -/

variable {byte : UInt8} {bytes front : List UInt8} {skip length : Nat} {c : Char}

/-- A byte that is a character by itself. -/
def IsAscii (byte : UInt8) : Prop := byte < 0x80

/-- No byte of its own goes on with another character. -/
theorem isContinuation_of_isAscii (ascii : IsAscii byte) : isContinuation byte = false := by
  have small : ¬ (0x80 ≤ byte) := UInt8.not_le.mpr ascii
  simp [isContinuation, small]

/-- A character is its first byte and bytes that continue it. -/
theorem charAt?_continuations (first : UInt8) (rest : List UInt8) :
    charAt? (first :: rest) = charAt? (first :: rest.takeWhile isContinuation) := by
  rcases rest with _ | ⟨second, rest⟩
  · rfl
  by_cases one : isContinuation second = true
  · rcases rest with _ | ⟨third, rest⟩
    · simp [one]
    by_cases two : isContinuation third = true
    · rcases rest with _ | ⟨fourth, rest⟩
      · simp [one, two]
      by_cases three : isContinuation fourth = true
      · simp [charAt?, one, two, three]
      · rcases rest with _ | ⟨fifth, rest⟩ <;> simp [charAt?, one, two, three]
    · rcases rest with _ | ⟨fourth, rest⟩ <;> simp [charAt?, one, two]
  · rcases rest with _ | ⟨third, _ | ⟨fourth, rest⟩⟩ <;> simp [charAt?, one]

/-- No character reaches over a byte that is one by itself. -/
theorem charAt?_append (ascii : IsAscii byte) (first : UInt8) (front rest : List UInt8) :
    charAt? (first :: (front ++ byte :: rest)) = charAt? (first :: front) := by
  have ends : ¬ isContinuation byte = true := by simp [isContinuation_of_isAscii ascii]
  rw [charAt?_continuations, charAt?_continuations first front]
  congr 2
  induction front with
  | nil => simp [ends]
  | cons b front ih => 
    by_cases h : isContinuation b = true <;> simp [h, ih]

/-- A character that was found has its code point, and it is not shorter than it should be. -/
theorem of_scalar? {least code further : Nat}
    (found : (scalar? least code).map (·, further) = some (c, length)) :
    length = further ∧ c.toNat = code ∧ least ≤ code := by
  obtain ⟨scalar, some, same⟩ := Option.map_eq_some_iff.mp found
  cases same
  unfold scalar? at some
  split at some
  · split at some
    · next enough =>
      cases some
      exact ⟨rfl, rfl, enough⟩
    · contradiction
  · contradiction

/-- A character is one byte, or it is longer than that and none of those. -/
theorem charAt?_cases {first : UInt8} (found : charAt? (first :: bytes) = some (c, length)) :
    IsAscii first ∧ length = 0 ∧ c.toNat = first.toNat ∨
      length ≤ bytes.length ∧ 0x80 ≤ c.toNat := by
  unfold charAt? at found
  dsimp only at found
  split at found
  · next ascii =>
    obtain ⟨short, code, -⟩ := of_scalar? found
    exact .inl ⟨ascii, short, code⟩
  right
  have long {least code further : Nat} (wide : 0x80 ≤ least) (there : further ≤ bytes.length)
      (found : (scalar? least code).map (·, further) = some (c, length)) :
      length ≤ bytes.length ∧ 0x80 ≤ c.toNat := by
    obtain ⟨rfl, rfl, enough⟩ := of_scalar? found
    exact ⟨there, wide.trans enough⟩
  split at found
  · contradiction
  -- Sequences of two, three and four bytes, each with its least code point.
  repeat' split at found
  all_goals first
    | contradiction
    | exact long (by decide) (by simp) found

/-- The character that a byte is by itself. -/
def ofByte (byte : UInt8) : Char := Char.ofNat byte.toNat

/-- A byte of its own has its value as its code. -/
theorem toNat_ofByte (byte : UInt8) : (ofByte byte).toNat = byte.toNat := by
  have valid : byte.toNat.isValidChar := .inl (Nat.lt_trans byte.toNat_lt (by decide))
  rw [ofByte, Char.ofNat, dif_pos valid]
  rfl

/-- Bytes of their own are different characters. -/
theorem ofByte_injective : Function.Injective ofByte := by
  intro first second same
  have code := congrArg Char.toNat same
  rw [toNat_ofByte, toNat_ofByte] at code
  exact UInt8.toNat_inj.mp code

/-- A character is the byte with its code. -/
theorem eq_ofByte (code : c.toNat = byte.toNat) : c = ofByte byte := by
  rw [ofByte, ← code, Char.ofNat_toNat]

/-- The character that some bytes start with, or the one for a byte that is none, and how many
further bytes belong to it. -/
def leading (first : UInt8) (bytes : List UInt8) : Char × Nat :=
  (charAt? (first :: bytes)).getD (replacement, 0)

/-- The step: decoding takes the first character and goes on behind its bytes. -/
theorem decodeAfter_zero (first : UInt8) (bytes : List UInt8) :
    decodeAfter 0 (first :: bytes)
      = (leading first bytes).1 :: decodeAfter (leading first bytes).2 bytes := by
  rw [decodeAfter, leading]
  cases charAt? (first :: bytes) <;> rfl

/-- What leads some bytes does not see those behind a byte of its own. -/
theorem leading_append (ascii : IsAscii byte) (first : UInt8) (front rest : List UInt8) :
    leading first (front ++ byte :: rest) = leading first front := by
  rw [leading, charAt?_append ascii, leading]

/-- A byte leads as itself, or as a character above the bytes of their own that takes no more bytes
than there are. -/
theorem leading_cases (first : UInt8) (bytes : List UInt8) :
    IsAscii first ∧ leading first bytes = (ofByte first, 0) ∨
      (leading first bytes).2 ≤ bytes.length ∧ 0x80 ≤ (leading first bytes).1.toNat := by
  rw [leading]
  cases found : charAt? (first :: bytes) with
  | none => exact .inr ⟨Nat.zero_le _, by decide⟩
  | some char =>
    rcases charAt?_cases found with ⟨ascii, short, code⟩ | long
    · exact .inl ⟨ascii, Prod.ext (eq_ofByte code) short⟩
    · exact .inr long

/-- A byte of its own leads as itself. -/
theorem leading_of_isAscii (ascii : IsAscii byte) (bytes : List UInt8) :
    leading byte bytes = (ofByte byte, 0) := by
  have small : byte.toNat < 0x80 := ascii
  have valid : byte.toNat.isValidChar := .inl (by omega)
  simp [leading, charAt?, if_pos (show byte < 0x80 from ascii), scalar?, valid, ofByte, Char.ofNat]

/-- A byte of its own is decoded as itself. -/
theorem decode_cons (ascii : IsAscii byte) (rest : List UInt8) :
    decode (byte :: rest) = ofByte byte :: decode rest := by
  rw [decode, decodeAfter_zero, leading_of_isAscii ascii]
  rfl

/-- The run: what stands before a byte that is a character by itself is decoded by itself. -/
theorem decodeAfter_append (ascii : IsAscii byte) (within : skip ≤ front.length)
    (rest : List UInt8) :
    decodeAfter skip (front ++ byte :: rest) = decodeAfter skip front ++ decode (byte :: rest) := by
  induction front generalizing skip with
  | nil =>
    obtain rfl : skip = 0 := Nat.le_zero.mp within
    rfl
  | cons first front inductionHypothesis =>
    rw [List.cons_append]
    cases skip with
    | succ skip => exact inductionHypothesis (Nat.le_of_succ_le_succ within)
    | zero =>
      have inside : (leading first front).2 ≤ front.length := by
        rcases leading_cases first front with ⟨-, short⟩ | ⟨long, -⟩
        · simp [short]
        · exact long
      rw [decodeAfter_zero, leading_append ascii, inductionHypothesis inside, decodeAfter_zero,
        List.cons_append]

/-- Where a character of one byte is decoded, the bytes can be divided. -/
theorem exists_of_decodeAfter {before behind : List Char} (small : c.toNat < 0x80)
    (decoded : decodeAfter skip bytes = before ++ c :: behind) :
    ∃ front byte rest, bytes = front ++ byte :: rest ∧ IsAscii byte ∧ c = ofByte byte ∧
      skip ≤ front.length ∧ decodeAfter skip front = before ∧ decode rest = behind := by
  induction bytes generalizing skip before with
  | nil => simp [decodeAfter] at decoded
  | cons first bytes inductionHypothesis =>
    cases skip with
    | succ skip =>
      obtain ⟨front, byte, rest, rfl, ascii, same, within, former, latter⟩ :=
        inductionHypothesis decoded
      exact ⟨first :: front, byte, rest, rfl, ascii, same, Nat.succ_le_succ within, former, latter⟩
    | zero =>
      rw [decodeAfter_zero] at decoded
      cases before with
      | nil =>
        obtain ⟨rfl, others⟩ := List.cons_eq_cons.mp decoded
        rcases leading_cases first bytes with ⟨ascii, own⟩ | ⟨-, large⟩
        · rw [own] at others ⊢
          exact ⟨[], first, bytes, rfl, ascii, rfl, Nat.le_refl 0, rfl, others⟩
        · exact absurd small (Nat.not_lt.mpr large)
      | cons d before =>
        obtain ⟨rfl, others⟩ := List.cons_eq_cons.mp decoded
        obtain ⟨front, byte, rest, rfl, ascii, same, within, former, latter⟩ :=
          inductionHypothesis others
        refine ⟨first :: front, byte, rest, rfl, ascii, same, Nat.zero_le _, ?_, latter⟩
        rw [leading_append ascii] at former ⊢
        rw [decodeAfter_zero, former]

/-- Only no bytes decode to nothing. -/
theorem decode_eq_nil : decode bytes = [] ↔ bytes = [] := by
  constructor
  · intro nothing
    cases bytes with
    | nil => rfl
    | cons first bytes =>
      rw [decode, decodeAfter_zero] at nothing
      contradiction
  · rintro rfl
    rfl

/-- A small character has its code as its byte. -/
theorem toNat_toUInt8 (small : c.toNat < 0x80) : c.toUInt8.toNat = c.toNat := by
  have code : c.toUInt8.toNat = c.toNat % 256 := rfl
  omega

/-- The byte of a small character is one of its own. -/
theorem isAscii_toUInt8 (small : c.toNat < 0x80) : IsAscii c.toUInt8 := by
  rw [IsAscii, UInt8.lt_iff_toNat_lt, toNat_toUInt8 small]
  exact small

/-- The byte of a small character stands for it. -/
theorem ofByte_toUInt8 (small : c.toNat < 0x80) : ofByte c.toUInt8 = c :=
  (eq_ofByte (toNat_toUInt8 small).symm).symm

/-- A character of one byte is decoded exactly where its byte is. -/
theorem decode_eq_append {before behind : List Char} (small : c.toNat < 0x80) :
    decode bytes = before ++ c :: behind ↔
      ∃ front rest, bytes = front ++ c.toUInt8 :: rest ∧ decode front = before ∧
        decode rest = behind := by
  constructor
  · intro decoded
    obtain ⟨front, byte, rest, rfl, -, same, -, former, latter⟩ :=
      exists_of_decodeAfter small decoded
    rw [← ofByte_toUInt8 small] at same
    rw [ofByte_injective same]
    exact ⟨front, rest, rfl, former, latter⟩
  · rintro ⟨front, rest, rfl, rfl, rfl⟩
    rw [decode, decodeAfter_append (isAscii_toUInt8 small) (Nat.zero_le _),
      decode_cons (isAscii_toUInt8 small), ofByte_toUInt8 small]
    rfl

/-- A text starts with a small character exactly when its bytes start with its byte. -/
theorem head?_decode (small : c.toNat < 0x80) :
    (decode bytes).head? = some c ↔ bytes.head? = some c.toUInt8 := by
  rw [List.head?_eq_some_iff, List.head?_eq_some_iff]
  constructor
  · rintro ⟨behind, decoded⟩
    rw [← List.nil_append (c :: behind)] at decoded
    obtain ⟨front, rest, rfl, former, -⟩ := (decode_eq_append small).mp decoded
    obtain rfl := decode_eq_nil.mp former
    exact ⟨rest, rfl⟩
  · rintro ⟨rest, rfl⟩
    refine ⟨decode rest, ?_⟩
    rw [decode_cons (isAscii_toUInt8 small), ofByte_toUInt8 small]

/-- Bytes of their own are decoded one by one. -/
theorem decode_of_isAscii (ascii : ∀ byte ∈ bytes, IsAscii byte) :
    decode bytes = bytes.map ofByte := by
  induction bytes with
  | nil => rfl
  | cons first bytes inductionHypothesis =>
    rw [List.forall_mem_cons] at ascii
    rw [decode_cons ascii.1, inductionHypothesis ascii.2, List.map_cons]

/-- Only bytes that are characters by themselves are decoded as such. -/
theorem isAscii_of_decode (small : ∀ c ∈ decode bytes, c.toNat < 0x80) :
    ∀ byte ∈ bytes, IsAscii byte := by
  induction bytes with
  | nil => exact List.forall_mem_nil _
  | cons first bytes inductionHypothesis =>
    rw [decode, decodeAfter_zero, List.forall_mem_cons] at small
    rcases leading_cases first bytes with ⟨ascii, own⟩ | ⟨-, large⟩
    · rw [own] at small
      exact List.forall_mem_cons.mpr ⟨ascii, inductionHypothesis small.2⟩
    · exact absurd small.1 (Nat.not_lt.mpr large)

/-! ## The order of names -/

/-- Items sorted by name are in the order of their names. -/
theorem pairwise_mergeSort {α : Type} (name : α → String) (items : List α) :
    (items.mergeSort fun first second => decide (name first ≤ name second)).Pairwise
      fun first second => name first ≤ name second := by
  refine (List.pairwise_mergeSort ?transitive ?total items).imp of_decide_eq_true
  case transitive =>
    intro first second third below above
    exact decide_eq_true (le_trans (of_decide_eq_true below) (of_decide_eq_true above))
  case total =>
    intro first second
    rw [Bool.or_eq_true, decide_eq_true_iff, decide_eq_true_iff]
    exact le_total (name first) (name second)

end WinZig.Text
