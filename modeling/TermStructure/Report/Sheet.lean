import TermStructure.Document.Encode

/-!
# Sheets

A sheet is what a command shows: rows of cells under named columns. A cell knows its text in a grid,
its text between commas, and its value in a document.
-/

namespace TermStructure

/-- A cell of a sheet. What is absent has a text in a grid only. -/
inductive Cell where
  | text (s : String)
  | float (x : Float)
  | decimal (d : Decimal)
  | absent (shown : String)
deriving DecidableEq

namespace Cell

/-- The text of a cell in a grid. -/
def shown : Cell → String
  | text s => s
  | float x => FloatText.text .plain x
  | decimal d => d.text
  | absent s => s

/-- The text of a cell between commas. -/
def field : Cell → String
  | text s => s
  | float x => FloatText.text .csv x
  | decimal d => FloatText.text .csv d.toFloat
  | absent _ => ""

/-- The value of a cell in a document. -/
def tree : Cell → Tree
  | text s => .ofText s
  | float x => .ofFloat x
  | decimal d => Encode.decimal d
  | absent _ => .null

end Cell

/-- A column: its heading in a grid, and its name elsewhere. -/
structure Column where
  heading : String
  name : String
deriving DecidableEq, Repr

/-- Rows of cells under columns, with a title. -/
structure Sheet where
  title : String
  columns : List Column
  rows : List (List Cell)

namespace Sheet

def rowTree (columns : List Column) (row : List Cell) : Tree :=
  .ofMembers ((columns.zip row).map fun (c, cell) => (c.name, cell.tree))

def tree (s : Sheet) : Tree :=
  .ofItems (s.rows.map (rowTree s.columns))

end Sheet

end TermStructure
