/-!
# Floats

A written float is a decimal: some digits and a power of ten. It is in range if it rounds to a finite
number with fifty-three significant binary digits and an exponent below 1024. The largest such number
is short of two to the power of 1024 by one unit in the last place, so what lies at half a unit from
that power or beyond it is out of range.
-/

namespace WinZig.Toml

/-- The number written by some digits. -/
def number (digits : List Char) : Nat :=
  digits.foldl (fun value digit => 10 * value + (digit.toNat - '0'.toNat)) 0

/-- A number times a power of ten. -/
structure Decimal where
  digits : Nat
  power : Int
deriving DecidableEq, Repr

namespace Decimal

/-- The exponent at the front of a text. -/
def exponentOf : List Char → Int
  | mark :: '-' :: digits => if mark == 'e' || mark == 'E' then -Int.ofNat (number digits) else 0
  | mark :: '+' :: digits | mark :: digits =>
    if mark == 'e' || mark == 'E' then Int.ofNat (number digits) else 0
  | [] => 0

/-- The size of a written float, its sign left aside. -/
def ofText (written : List Char) : Decimal :=
  let unsigned := written.dropWhile fun c => c == '-' || c == '+'
  let whole := unsigned.takeWhile Char.isDigit
  match unsigned.dropWhile Char.isDigit with
  | '.' :: behind =>
    let fraction := behind.takeWhile Char.isDigit
    ⟨number (whole ++ fraction),
      exponentOf (behind.dropWhile Char.isDigit) - Int.ofNat fraction.length⟩
  | rest => ⟨number whole, exponentOf rest⟩

/-- The least number that is out of range. -/
def limit : Nat := Nat.pow 2 1024 - Nat.pow 2 970

/-- Whether a decimal is out of range. Its number of digits decides unless it is near the limit, which
has 309 digits. -/
def overflows (decimal : Decimal) : Bool :=
  let length := Int.ofNat (Nat.toDigits 10 decimal.digits).length
  if decimal.digits = 0 ∨ length + decimal.power < 309 then false
  else if 309 < length + decimal.power then true
  else match decimal.power with
    | .ofNat up => limit ≤ decimal.digits * Nat.pow 10 up
    | .negSucc down => limit * Nat.pow 10 (down + 1) ≤ decimal.digits

end Decimal

end WinZig.Toml
