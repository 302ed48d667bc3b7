import WinZig.Layout.Cell

/-!
# Boxed tables

A table with a header, ruled above and below the header and at the end, with bars between the
columns. Texts are not wrapped.
-/

namespace WinZig.Layout

/-- A rule across columns of given widths. -/
def rule (widths : List Nat) : String :=
  let dashes := widths.map fun width => String.ofList (List.replicate (width + 2) '-') ++ "+"
  "+" ++ String.join dashes ++ "\n"

/-- The lines of a row between bars. -/
def boxedRow (widths : List Nat) (row : List Cell) : String :=
  String.join ((rowLines widths row).map fun cells =>
    "|" ++ String.join (cells.map fun cell => s!" {cell} |") ++ "\n")

/-- A table with a header and some rows. -/
def boxed (header : List String) (rows : List (List String)) : String :=
  let header := header.map Cell.ofText
  let rows := rows.map fun row => row.map Cell.ofText
  let widths := columnWidths (header :: rows)
  rule widths ++ boxedRow widths header ++ rule widths ++
    String.join (rows.map (boxedRow widths)) ++ rule widths

end WinZig.Layout
