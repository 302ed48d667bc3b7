/-!
# Decimal integers

Reading of decimal integers with a bounded range: an optional sign, then one or more ASCII digits,
and nothing else.
-/

namespace WinZig.Text

/-- The value of a nonempty sequence of ASCII digits. -/
def digitsValue? (digits : List Char) : Option Nat :=
  if digits.isEmpty || !digits.all Char.isDigit then none
  else some (digits.foldl (fun value digit => 10 * value + (digit.toNat - '0'.toNat)) 0)

/-- The value of an optional sign followed by digits. -/
def signedValue? : List Char → Option Int
  | '+' :: digits => (digitsValue? digits).map Int.ofNat
  | '-' :: digits => (digitsValue? digits).map fun value => -Int.ofNat value
  | digits => (digitsValue? digits).map Int.ofNat

/-- The value of a decimal integer that fits in 64 bits. -/
def int64? (text : String) : Option Int :=
  (signedValue? text.toList).filter fun value => -Int.pow 2 63 ≤ value ∧ value < Int.pow 2 63

end WinZig.Text
