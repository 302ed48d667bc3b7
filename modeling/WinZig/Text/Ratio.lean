/-!
# Ratios

Ratios of numbers as they come out of arithmetic with fifty-three significant binary digits, written
with two decimal places. Everything is rounded to the nearest value, and halves to the even one.
-/

namespace WinZig.Text

/-- The integer nearest to a fraction. -/
def nearest (numerator denominator : Nat) : Nat :=
  let quotient := numerator / denominator
  let rest := 2 * (numerator % denominator)
  if denominator < rest ∨ (rest = denominator ∧ quotient % 2 = 1) then quotient + 1 else quotient

/-- A fraction with a positive denominator. -/
structure Fraction where
  numerator : Nat
  denominator : Nat
deriving Repr

namespace Fraction

/-- The position of the first binary digit of a positive fraction: it is at least two to that power
and less than twice that. -/
def magnitude (fraction : Fraction) : Int :=
  let estimate : Int := Int.ofNat fraction.numerator.log2 - Int.ofNat fraction.denominator.log2
  let atLeast : Bool := match estimate with
    | .ofNat up => fraction.denominator * Nat.pow 2 up ≤ fraction.numerator
    | .negSucc down => fraction.denominator ≤ fraction.numerator * Nat.pow 2 (down + 1)
  if atLeast then estimate else estimate - 1

/-- The nearest fraction with fifty-three significant binary digits. -/
def rounded (fraction : Fraction) : Fraction :=
  if fraction.numerator = 0 then ⟨0, 1⟩ else
  match fraction.magnitude - 52 with
  | .ofNat up =>
    ⟨nearest fraction.numerator (fraction.denominator * Nat.pow 2 up) * Nat.pow 2 up, 1⟩
  | .negSucc down =>
    ⟨nearest (fraction.numerator * Nat.pow 2 (down + 1)) fraction.denominator, Nat.pow 2 (down + 1)⟩

/-- The rounded quotient of two rounded fractions. -/
def divide (first second : Fraction) : Fraction :=
  let first := first.rounded
  let second := second.rounded
  rounded ⟨first.numerator * second.denominator, first.denominator * second.numerator⟩

/-- A fraction with two decimal places. -/
def fixed (fraction : Fraction) : String :=
  let hundredths := nearest (100 * fraction.numerator) fraction.denominator
  let places := hundredths % 100
  let zero := if places < 10 then "0" else ""
  s!"{hundredths / 100}.{zero}{places}"

end Fraction

/-- The ratio of a positive number to another with two decimal places. To zero it is infinite. -/
def ratio (first second : Nat) : String :=
  if second = 0 then "+Inf" else (Fraction.divide ⟨first, 1⟩ ⟨second, 1⟩).fixed

end WinZig.Text
