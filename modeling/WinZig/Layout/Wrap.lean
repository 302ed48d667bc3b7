import WinZig.Layout.Cell

/-!
# Wrapped texts

A text is wrapped so that its lines are as even as possible: of all ways to break it between words,
the one with the least sum of squares of the room left on every line but the last. A text that fits
is not broken. Of equally good ways, the one with the earlier first break is taken.

Words are what stands between single blanks, so two blanks in a row have an empty word between them.
-/

namespace WinZig.Layout

/-- A way to break some words into lines, and its cost. -/
structure Breaking where
  cost : Nat
  lines : List (List String)

/-- What a line longer than the limit costs on top. -/
def overlongCost : Nat := 100000

/-- The cost of a line that is not the last. -/
def lineCost (limit length : Nat) : Nat :=
  Nat.pow (Int.ofNat limit - Int.ofNat length).natAbs 2 + (if limit < length then overlongCost else 0)

/-- The better of two ways; the first of equals. -/
def Breaking.better (first second : Breaking) : Breaking :=
  if second.cost < first.cost then second else first

/-- The best way to break behind `line`, which is `length` columns wide, or behind a longer line:
`tails` are the best ways for what follows `line`, for what follows one more word, and so on. -/
def bestBreak (limit : Nat) (line : List String) (length : Nat) :
    (words : List String) → (tails : List Breaking) → Option Breaking
  | word :: words, tail :: tails =>
    let here : Breaking := ⟨lineCost limit length + tail.cost, line :: tail.lines⟩
    let longer := length + 1 + Text.width word.toList
    match bestBreak limit (line ++ [word]) longer words tails with
    | some other => some (here.better other)
    | none => some here
  | _, _ => none

/-- The width of words on one line. -/
def lineWidth (words : List String) : Nat :=
  (words.map fun word => Text.width word.toList).foldr (· + ·) 0 + (words.length - 1)

/-- The best way to break some words, then the best way for all but the first of them, and so
on. -/
def breakings (limit : Nat) : List String → List Breaking
  | [] => []
  | word :: words =>
    let tails := breakings limit words
    let whole : Breaking := ⟨0, [word :: words]⟩
    let here :=
      if lineWidth (word :: words) ≤ limit then whole
      else (bestBreak limit [word] (Text.width word.toList) words tails).getD whole
    here :: tails

/-- The lines of a text wrapped to a limit. A word wider than the limit raises it. -/
def wrapLines (limit : Nat) (text : String) : List String :=
  let words := (text.toList.splitOn ' ').map String.ofList
  let limit := words.foldl (fun limit word => max limit (Text.width word.toList)) limit
  match breakings limit words with
  | best :: _ => best.lines.map (String.intercalate " ")
  | [] => []

/-- A cell with a text wrapped to a limit. Line ends in the text count as blanks. -/
def Cell.wrapped (limit : Nat) (text : String) : Cell :=
  let raw := Cell.ofText text
  let limit := min limit raw.width
  let lines := wrapLines limit (String.intercalate " " raw.lines)
  { lines, width := max limit (Cell.widest lines) }

/-- A table without rules: every cell is followed by two blanks. -/
def spaced (limit : Nat) (rows : List (List String)) : String :=
  let rows := rows.map fun row => row.map (Cell.wrapped limit)
  let widths := columnWidths rows
  String.join (rows.map fun row =>
    String.join ((rowLines widths row).map fun cells =>
      String.join (cells.map (· ++ "  ")) ++ "\n"))

end WinZig.Layout
