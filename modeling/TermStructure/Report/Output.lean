import TermStructure.Json.Writer
import TermStructure.Report.Commas
import TermStructure.Report.Grid

/-!
# Output of commands

The output of a command goes to two streams: results to the first, notices to the second. Grids have
a title above them and notices beside them unless the command is quiet; the other formats have
neither.
-/

namespace TermStructure

inductive OutputFormat where
  | table
  | json
  | csv
deriving DecidableEq, Repr

namespace OutputFormat

def name : OutputFormat → String
  | table => "table"
  | json => "json"
  | csv => "csv"

/-- All formats. -/
def all : List OutputFormat := [table, json, csv]

def ofName? (name : String) : Option OutputFormat :=
  all.find? fun f => f.name == name

end OutputFormat

/-- How results are shown: the format, whether titles and notices are left out, and the decimal
places of year fractions. -/
structure Presentation where
  format : OutputFormat
  quiet : Bool
  precision : Nat
deriving DecidableEq, Repr

/-- What has been written to the two streams. -/
structure Output where
  results : String
  notices : String
deriving DecidableEq, Repr

namespace Output

def append (a b : Output) : Output :=
  ⟨a.results ++ b.results, a.notices ++ b.notices⟩

instance : Append Output := ⟨append⟩

def document (t : Tree) : Output :=
  ⟨Json.pretty t ++ "\n", ""⟩

end Output

namespace Presentation

def sheet (p : Presentation) (s : Sheet) : Output :=
  match p.format with
  | .table => ⟨(if p.quiet then "" else "\n" ++ s.title ++ "\n") ++ Grid.text s, ""⟩
  | .json => .document s.tree
  | .csv => ⟨Commas.text s, ""⟩

/-- The notice of a success. -/
def success (p : Presentation) (message : String) : Output :=
  ⟨"", if p.format = .table ∧ ¬ p.quiet then "✓ " ++ message ++ "\n" else ""⟩

end Presentation

end TermStructure
