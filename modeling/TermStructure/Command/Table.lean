import TermStructure.Command.Error
import TermStructure.File.Load
import TermStructure.Report.Output

/-!
# Commands on volatility tables

One command shows the entries of a table; the other looks up the entry in force at each of some
tenors, in their order.
-/

namespace TermStructure.Command

/-- The text of a missing end in a grid. -/
def unboundedText : String := "inf"

def entrySheet (v : VolatilityTable) : Sheet where
  title := "Volatility Table"
  columns := [⟨"Start", "start"⟩, ⟨"End", "end"⟩, ⟨"Volatility", "volatility"⟩]
  rows := v.table.toList.map fun e =>
    [.text e.start.text, e.stop.elim (.absent unboundedText) fun t => .text t.text, .float e.value]

def validateTable (files : Files) (p : Presentation) (path : String) :
    Except CommandError Output :=
  match files.volatilityTable path with
  | .error e => .error (.file e)
  | .ok v =>
    .ok (p.sheet (entrySheet v) ++
      p.success (path ++ " is valid (" ++ toString v.table.size ++ " entries)"))

/-- A tenor with the interval that it falls in and the volatility there. -/
structure LookupRow where
  tenor : Tenor
  interval : Interval
  volatility : Float

/-- The row of a tenor. -/
def lookupRow (v : VolatilityTable) (t : Tenor) : Except CommandError LookupRow :=
  match v.table.lookupEntry t with
  | some e => .ok ⟨t, e.interval, e.value⟩
  | none => .error (.noEntry t)

/-- The rows of some tenors in order. -/
def lookupRows (v : VolatilityTable) : List Tenor → Except CommandError (List LookupRow)
  | [] => .ok []
  | t :: rest =>
    match lookupRow v t with
    | .error e => .error e
    | .ok row =>
      match lookupRows v rest with
      | .error e => .error e
      | .ok rows => .ok (row :: rows)

def lookupSheet (rows : List LookupRow) : Sheet where
  title := "Volatility Lookup"
  columns := [⟨"Tenor", "tenor"⟩, ⟨"Interval", "interval"⟩, ⟨"Volatility", "volatility"⟩]
  rows := rows.map fun r => [.text r.tenor.text, .text r.interval.text, .float r.volatility]

def lookUp (files : Files) (p : Presentation) (path : String) (tenors : List Tenor) :
    Except CommandError Output :=
  match files.volatilityTable path with
  | .error e => .error (.file e)
  | .ok v =>
    match lookupRows v tenors with
    | .error e => .error e
    | .ok rows => .ok (p.sheet (lookupSheet rows))

end TermStructure.Command
