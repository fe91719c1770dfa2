import TermStructure.Calendar.HolidayText
import TermStructure.Document.Parse
import TermStructure.Document.Values
import TermStructure.File.Store

/-!
# Loading values from files

The format of a document is told by its path, which is looked at before the file. Tables and curve
inputs are first read as documents, then checked: an error of the check is one of structure, not of
the document.
-/

namespace TermStructure.Files

variable {α V : Type}

/-- The text of a file. -/
def text (files : Files) (path : String) : Except FileError String :=
  match files.read path with
  | .ok s => .ok s
  | .error fault => .error (.unreadable path fault)

/-- Reads a value from a document. -/
def document (files : Files) (r : Reader α) (path : String) : Except FileError α :=
  match DocumentFormat.ofPath? path with
  | none => .error (.unsupportedFormat path)
  | some format =>
    match files.text path with
    | .error e => .error e
    | .ok s =>
      match format.parse r s with
      | .ok a => .ok a
      | .error fault => .error (.document path format fault)

/-- Loads a table with values of some kind. -/
def table (files : Files) (r : Reader V) (path : String) : Except FileError (Table V) :=
  match files.document (Decode.entries "TableFile" r) path with
  | .error e => .error e
  | .ok es => (Table.ofEntries es).mapError .structural

/-- Loads a volatility table. -/
def volatilityTable (files : Files) (path : String) : Except FileError VolatilityTable :=
  (files.table Decode.float path).map VolatilityTable.ofTable

/-- Loads a curve input. -/
def curveInput (files : Files) (path : String) : Except FileError CurveInput :=
  match files.document Decode.curveDraft path with
  | .error e => .error e
  | .ok d => d.build.mapError .structural

/-- Loads the dates of a holiday file. -/
def holidays (files : Files) (path : String) : Except FileError (List Date) :=
  match files.text path with
  | .error e => .error e
  | .ok s => (HolidayText.dates s).mapError .value

/-- Loads a set of holidays under a name. -/
def holidayList (files : Files) (name path : String) : Except FileError HolidayList :=
  (files.holidays path).map (HolidayList.ofDates name)

end TermStructure.Files
