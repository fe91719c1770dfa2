import TermStructure.Document.Parse
import TermStructure.Report.Output

/-!
# Settings

The settings of the program come from a TOML document: the format of results, the filter and color of
log messages, the decimal places of year fractions, and the holiday files of regions. Each may be
missing; anything else is refused. The log settings have no effect on results, but directives of the
filter that are not understood are noticed.
-/

namespace TermStructure

/-- The settings of the program. -/
structure Settings where
  format : OutputFormat := .table
  logFilter : String := "warn"
  color : Bool := true
  precision : Nat := 6
  calendars : List (String × String) := []
deriving DecidableEq, Repr

namespace Settings

/-- The file of the settings if none is named. -/
def defaultPath : String := "termgrid.toml"

/-- The holiday files of regions, by the texts of the regions in ascending order. -/
def calendarsInOrder (s : Settings) : List (String × String) :=
  s.calendars.mergeSort fun a b => decide (a.1 ≤ b.1)

/-- The formats of results by their names. -/
def formats : Decode.Variants OutputFormat where
  names := OutputFormat.all.map OutputFormat.name
  ofName? := OutputFormat.ofName?

/-- Reads the members of an object as texts by key. -/
def texts (format : DocumentFormat) (ending : Ending) :
    List (Key × Tree) → Decoded (List (String × String))
  | [] => if ending = .closed then .ok [] else .error .malformed
  | (none, _) :: _ => .error .malformed
  | (some name, t) :: rest =>
    match Decode.text "path string" t with
    | .error e => .error e
    | .ok path =>
      match texts format ending rest with
      | .error e => .error e
      | .ok more => .ok ((name, path) :: more)

/-- Paths by key. -/
def paths : Reader (List (String × String)) :=
  fun format t =>
    match t.members? with
    | some (members, ending) => texts format ending members
    | none => Decode.mismatch t "a map"

def fields : Decode.Fields Settings where
  record := "Settings"
  fields := [
    Decode.field "default_format" true (Decode.variant formats) fun v s => { s with format := v },
    Decode.field "log_level" true Decode.string fun v s => { s with logFilter := v },
    Decode.field "color" true Decode.bool fun v s => { s with color := v },
    Decode.field "precision" true (Decode.integer "u32" 0 (2 ^ 32 - 1))
      fun v s => { s with precision := v.toNat },
    Decode.field "calendars" true paths fun v s => { s with calendars := v }]
  strict := true

def reader : Reader Settings :=
  fields.read {}

def parse (text : String) : Decoded Settings :=
  DocumentFormat.toml.parse reader text

end Settings

end TermStructure
