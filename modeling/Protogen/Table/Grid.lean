import Protogen.Markup.Render
import Protogen.Table.Columns
import Protogen.Table.Wrap

/-!
# Tables of text

A table has a line for each row, or as many as its tallest cell needs; a cell is as wide as its
column, and shorter cells go on with blanks.

* `settle` brings the pieces of a line to a width.
* `cellLines` are the lines of a cell.
* `draw` is the text of a table.
-/

set_option autoImplicit false

namespace Protogen.Table

open Markup (Styled)

/-- The pieces of a line up to a width, counted from a number of cells. -/
def crop (width : Nat) : Nat → List (List Char) → List (List Char)
  | _, [] => []
  | cells, piece :: rest =>
    let reached := cells + Text.width piece
    if reached < width then piece :: crop width reached rest
    else [Text.fitTo (width - cells) piece]

/-- The pieces of a line filled up with blanks or cropped to a width. -/
def settle (width : Nat) (line : List (List Char)) : List (List Char) :=
  let size := total (line.map Text.width)
  if size < width then line ++ [Text.blanks (width - size)]
  else if width < size then crop width 0 line
  else line

/-- The pieces of a line of a cell with the gap behind them. A cropped line may miss its width if
it is cropped at a joiner, so that it is settled again. -/
def cellLine (width : Nat) (line : Styled) : List (List Char) :=
  settle width (settle width (settle (width - gap) line.pieces ++ [Text.blanks gap]))

/-- The lines of a cell in a column. -/
def cellLines (width : Nat) (cell : Styled) : Except Markup.Fault (List (List Char)) := do
  let lines := wrap (width - gap) cell
  lines.forM Styled.checkStyles
  pure (lines.map fun line => (cellLine width line).flatten)

/-- Cells side by side, each given by its width and its lines; a cell that has no lines any more
goes on with blanks. -/
def sideBySide (cells : List (Nat × List (List Char))) : List (List Char) :=
  let height := (cells.map fun cell => cell.2.length).foldl max 1
  (List.range height).map fun i =>
    cells.flatMap fun cell => (cell.2[i]?).getD (Text.blanks cell.1)

/-- The lines of a row of cells. -/
def rowLines (widths : List Nat) (row : List Styled) : Except Markup.Fault (List (List Char)) := do
  let cells ← (widths.zip row).mapM fun (width, cell) => do pure (width, ← cellLines width cell)
  pure (sideBySide cells)

/-- The cells of a column. -/
def column (rows : List (List Styled)) (i : Nat) : List Styled := rows.filterMap (·[i]?)

/-- The cells of markup, read column by column. -/
def readCells (columns : Nat) (rows : List (List String)) :
    Except Markup.Fault (List (List Styled)) := do
  let read ← (List.range columns).mapM fun i =>
    (rows.filterMap (·[i]?)).mapM fun cell => Markup.render cell.toList
  pure ((List.range rows.length).map fun i => read.filterMap (·[i]?))

/-- The text of a table of so many columns that fits into a limit. -/
def draw (limit columns : Nat) (rows : List (List String)) : Except Markup.Fault String := do
  let cells ← readCells columns rows
  let widths := collapse limit ((List.range columns).map fun i =>
    columnWidth limit (column cells i))
  let lines ← cells.mapM (rowLines widths)
  pure (String.ofList (lines.flatten.flatMap fun line => line ++ ['\n']))

end Protogen.Table
