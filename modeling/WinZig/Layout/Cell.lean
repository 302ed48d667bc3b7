import WinZig.Text.Width

/-!
# Cells

A table is laid out from cells. A cell is a number of lines and the width it asks of its column.
All cells of a column are padded on the right to the widest of them; where a row is higher than a
cell, two blanks stand for the lines the cell lacks.
-/

namespace WinZig.Layout

/-- Lines of text, and the width they ask for. -/
structure Cell where
  lines : List String
  width : Nat
deriving Repr

namespace Cell

/-- The widest of some lines. -/
def widest (lines : List String) : Nat := (lines.map Text.displayWidth).foldl max 0

/-- A cell that keeps the lines of a text as they are. -/
def ofText (text : String) : Cell :=
  let lines := (text.toList.splitOn '\n').map String.ofList
  { lines, width := widest lines }

/-- The line a cell shows at a height of its row. -/
def lineAt (cell : Cell) (height : Nat) : String := cell.lines.getD height "  "

end Cell

/-- A text padded on the right with blanks. -/
def padRight (width : Nat) (text : String) : String :=
  text ++ String.ofList (List.replicate (width - Text.displayWidth text) ' ')

/-- The widths of the columns of some rows. -/
def columnWidths (rows : List (List Cell)) : List Nat :=
  let columns := (rows.map List.length).foldl max 0
  (List.range columns).map fun column =>
    (rows.map fun row => (row[column]?.map Cell.width).getD 0).foldl max 0

/-- The number of lines of a row. -/
def rowHeight (row : List Cell) : Nat := (row.map fun cell => cell.lines.length).foldl max 0

/-- The lines of a row, each as its padded cells. -/
def rowLines (widths : List Nat) (row : List Cell) : List (List String) :=
  (List.range (rowHeight row)).map fun height =>
    List.zipWith (fun width cell => padRight width (cell.lineAt height)) widths row

end WinZig.Layout
