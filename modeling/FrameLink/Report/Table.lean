import FrameLink.Text.Columns

/-!
# Tables

Cells in a grid of box-drawing characters. A column is as wide as the widest line of its cells, a
line break splits a cell into lines, and nothing is ever wrapped.
-/

namespace FrameLink.Report

/-- A table: a header row and the rows below it. -/
structure Table where
  header : List String
  rows : List (List String)
  deriving DecidableEq, Repr

/-- The characters of a horizontal line: its ends, its junctions, and what runs between them. -/
structure Rule where
  left : Char
  run : Char
  junction : Char
  right : Char

namespace Rule

/-- The line above the header. -/
def top : Rule := ⟨'┌', '─', '┬', '┐'⟩

/-- The line below the header. -/
def belowHeader : Rule := ⟨'╞', '═', '╪', '╡'⟩

/-- The line between two rows. -/
def betweenRows : Rule := ⟨'├', '╌', '┼', '┤'⟩

/-- The line below the last row. -/
def bottom : Rule := ⟨'└', '─', '┴', '┘'⟩

/-- The line over columns of the given widths; a cell has a space on each side. -/
def render (rule : Rule) (widths : List Nat) : List Char :=
  rule.left :: List.intercalate [rule.junction]
    (widths.map fun width => List.replicate (width + 2) rule.run) ++ [rule.right]

end Rule

/-- The lines of a cell. -/
def cellLines (cell : String) : List (List Char) :=
  cell.toList.splitOn '\n'

/-- The columns that a cell needs. -/
def cellWidth (cell : String) : Nat :=
  ((cellLines cell).map Text.lineColumns).foldl max 0

/-- The widths of columns, widened to hold one more row. -/
def widen : List Nat → List String → List Nat
  | widths, [] => widths
  | [], cell :: cells => cellWidth cell :: widen [] cells
  | width :: widths, cell :: cells => max width (cellWidth cell) :: widen widths cells

/-- A line of a cell, filled up with spaces. -/
def padLine (width : Nat) (line : List Char) : List Char :=
  ' ' :: line ++ List.replicate (width - Text.lineColumns line) ' ' ++ [' ']

/-- The lines of a row. -/
def rowLines (widths : List Nat) (row : List String) : List (List Char) :=
  let cells := row.map fun cell => (cellLines cell).toArray
  let height := (cells.map Array.size).foldl max 0
  (List.range height).map fun index =>
    '│' :: List.intercalate ['┆']
      (List.zipWith (fun width lines => padLine width (lines.getD index [])) widths cells) ++
      ['│']

namespace Table

/-- The widths of the columns. -/
def widths (table : Table) : List Nat :=
  table.rows.foldl widen (widen [] table.header)

/-- The lines of a table. -/
def lines (table : Table) : List (List Char) :=
  let widths := table.widths
  [Rule.top.render widths] ++ rowLines widths table.header ++
    [Rule.belowHeader.render widths] ++
    List.intercalate [Rule.betweenRows.render widths] (table.rows.map (rowLines widths)) ++
    [Rule.bottom.render widths]

/-- The text of a table, with a line break behind every line. -/
def render (table : Table) : String :=
  String.ofList (table.lines.flatMap (· ++ ['\n']))

end Table

end FrameLink.Report
