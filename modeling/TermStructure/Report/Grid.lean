import TermStructure.Report.Sheet
import TermStructure.Text.Width

/-!
# Grids

A grid shows a sheet with lines around its columns and below its headings. Each cell begins one blank
after the line before it and is filled with blanks up to the width of its column. A cell may have
several lines; its row then has as many. A sheet without rows has no grid.
-/

namespace TermStructure.Grid

/-- The lines of a cell. -/
def cellLines (s : String) : List (List Char) :=
  s.toList.splitOn '\n'

/-- The width of a cell. -/
def cellWidth (s : String) : Nat :=
  ((cellLines s).map Text.width).foldl max 0

/-- The widths of the columns of some rows. -/
def widths : List (List String) → List Nat
  | [] => []
  | [row] => row.map cellWidth
  | row :: rest => List.zipWith max (row.map cellWidth) (widths rest)

/-- A text with blanks up to a width. -/
def pad (width : Nat) (cs : List Char) : List Char :=
  cs ++ List.replicate (width - Text.width cs) ' '

/-- A line across the columns: its first character, the one between columns, and the last. -/
def rule (first between last : Char) (widths : List Nat) : List Char :=
  let parts := widths.map fun w => List.replicate (w + 2) '─'
  first :: [between].intercalate parts ++ [last]

/-- A line of cells. -/
def line (cells : List (List Char)) : List Char :=
  '│' :: (cells.flatMap fun c => ' ' :: c ++ [' ', '│'])

/-- The lines of a row. -/
def rowLines (widths : List Nat) (row : List String) : List (List Char) :=
  let cells := row.map cellLines
  let height := (cells.map List.length).foldl max 0
  (List.range height).map fun i =>
    line (List.zipWith (fun w ls => pad w (ls[i]?.getD [])) widths cells)

/-- The lines of a grid. -/
def lines (headings : List String) (rows : List (List String)) : List (List Char) :=
  let ws := widths (headings :: rows)
  rule '╭' '┬' '╮' ws :: rowLines ws headings ++
    rule '├' '┼' '┤' ws :: rows.flatMap (rowLines ws) ++ [rule '╰' '┴' '╯' ws]

/-- The text of a sheet's grid. -/
def text (s : Sheet) : String :=
  if s.rows.isEmpty then "No results.\n"
  else
    let all := lines (s.columns.map Column.heading) (s.rows.map (·.map Cell.shown))
    String.ofList (all.flatMap (· ++ ['\n']))

end TermStructure.Grid
