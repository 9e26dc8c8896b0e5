import Recurrence.Terminal.Width
import Recurrence.Text.Blank

/-! Tables without rules: a blank, and the columns two blanks apart, each as wide as its widest
cell. -/

namespace Recurrence.Terminal

structure Column where
  title : Text
  atRight : Bool := false

/-- A cell filled up to a width, on the left or on the right. -/
def Column.cell (c : Column) (width : Nat) (t : Text) : Text :=
  let room := List.replicate (width - t.cells) ' '
  if c.atRight then room ++ t else t ++ room

/-- A row, cells and widths in the order of the columns. -/
def row (columns : List Column) (widths : List Nat) (cells : List Text) : Text :=
  let filled := (columns.zip (widths.zip cells)).map fun (c, width, t) => c.cell width t
  ' ' :: (Text.joined [' ', ' '] filled).stripRight

/-- The lines of a table, the titles first. -/
def table (columns : List Column) (rows : List (List Text)) : List Text :=
  let rows := columns.map Column.title :: rows
  let widths := (List.range columns.length).map fun i =>
    (rows.map fun cells => Text.cells (cells[i]?.getD [])).foldl max 0
  rows.map (row columns widths)

end Recurrence.Terminal
