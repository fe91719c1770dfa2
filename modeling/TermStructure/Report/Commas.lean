import TermStructure.Report.Sheet

/-!
# Comma separated values

Each row is a line of fields with commas between them, after a line with the names of the columns. A
field with a comma, a quote or a line end stands between quotes, and a quote in it is doubled; so does
the only field of a line if it is empty. A sheet without rows gives no lines at all.
-/

namespace TermStructure.Commas

/-- Whether a field must stand between quotes. -/
def needsQuotes (cs : List Char) : Bool :=
  cs.any fun c => c == ',' || c == '"' || c == '\n' || c == '\r'

/-- A field between quotes. -/
def quote (cs : List Char) : List Char :=
  '"' :: cs.flatMap (fun c => if c = '"' then ['"', '"'] else [c]) ++ ['"']

/-- A field as it is written. -/
def field (s : String) : List Char :=
  if needsQuotes s.toList then quote s.toList else s.toList

/-- A line of fields. -/
def line (fields : List String) : List Char :=
  let cs := if fields = [""] then quote [] else [','].intercalate (fields.map field)
  cs ++ ['\n']

/-- The lines of a sheet. -/
def text (s : Sheet) : String :=
  if s.rows.isEmpty then ""
  else
    String.ofList (line (s.columns.map Column.name) ++
      s.rows.flatMap fun row => line (row.map Cell.field))

end TermStructure.Commas
