/-!
# Rules of a grammar

A rule either fails or takes characters from the front of a text, and of two rules the second is
tried only where the first fails. The line of the text is counted along: a line ends at every
carriage return and at every line feed.
-/

namespace WinZig.Text

/-- The text still to be read, and the line it starts on. -/
structure Spot where
  rest : List Char
  line : Nat := 1

/-- A rule of the grammar. -/
def Rule (α : Type) := Spot → Option (α × Spot)

namespace Rule

variable {α β : Type}

instance : Monad Rule where
  pure value := fun spot => some (value, spot)
  bind first next := fun spot => (first spot).bind fun (value, spot) => next value spot

/-- The rule that always fails. -/
def fail : Rule α := fun _ => none

/-- The first of two rules that does not fail. -/
def orElse (first second : Rule α) : Rule α := fun spot => (first spot).or (second spot)

/-- The first of some rules that does not fail. -/
def choice (rules : List (Rule α)) : Rule α := rules.foldr orElse fail

/-- The current line. -/
def line : Rule Nat := fun spot => some (spot.line, spot)

/-- Whether a character ends a line. -/
def isLineEnd (c : Char) : Bool := c == '\n' || c == '\r'

/-- One character with a property. -/
def char (accepted : Char → Bool) : Rule Char := fun spot =>
  match spot.rest with
  | [] => none
  | c :: rest =>
    if accepted c then some (c, ⟨rest, if isLineEnd c then spot.line + 1 else spot.line⟩) else none

/-- A given text. -/
def literal (text : String) : Rule Unit :=
  text.toList.foldr (fun c rule => do let _ ← char (· == c); rule) (pure ())

/-- Fails where a rule does not, and takes nothing. -/
def absent (rule : Rule α) : Rule Unit := fun spot =>
  match rule spot with
  | some _ => none
  | none => some ((), spot)

/-- What a rule takes, or nothing. -/
def optional (rule : Rule α) : Rule (Option α) := fun spot =>
  match rule spot with
  | some (value, spot) => some (some value, spot)
  | none => some (none, spot)

/-- What a rule takes, and the text it takes it from. -/
def withText (rule : Rule α) : Rule (α × String) := fun spot =>
  (rule spot).map fun (value, after) =>
    ((value, String.ofList (spot.rest.take (spot.rest.length - after.rest.length))), after)

/-- A rule as often as it does not fail, at most `bound` times. -/
def manyUpTo (rule : Rule α) : (bound : Nat) → Rule (List α)
  | 0 => pure []
  | bound + 1 => fun spot =>
    match rule spot with
    | none => some ([], spot)
    | some (value, spot) =>
      (manyUpTo rule bound spot).map fun (values, spot) => (value :: values, spot)

/-- A rule that takes at least one character, as often as it does not fail. -/
def many (rule : Rule α) : Rule (List α) := fun spot => manyUpTo rule spot.rest.length spot

/-- A rule once, and then as often as it does not fail. -/
def oneOrMore (rule : Rule α) : Rule (List α) := do
  let first ← rule
  return first :: (← many rule)

end Rule

end WinZig.Text
