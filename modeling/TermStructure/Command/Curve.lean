import TermStructure.Command.Error
import TermStructure.Command.Settings
import TermStructure.Curve.Nodes
import TermStructure.File.Load

/-!
# Commands on curve inputs

One command shows the fields and quotes of a curve input. The other dates its quotes: the settings
give holiday files to regions, and a holiday file that is named for the command replaces that of the
input's region. All holiday files are read, also those of other regions.
-/

namespace TermStructure.Command

/-! ## Contents -/

/-- The fields of a curve input as a sheet. -/
def fieldSheet (i : CurveInput) : Sheet where
  title := "Curve Input"
  columns := [⟨"Field", "key"⟩, ⟨"Value", "value"⟩]
  rows := [
    [.text "Currency", .text i.currency.code],
    [.text "Spot Date", .text i.spotDate.text],
    [.text "Curve Day Count", .text i.curveDayCount.name],
    [.text "Business Day Convention", .text i.convention.text],
    [.text "Cash Day Count", .text i.cashDayCount.name],
    [.text "Swap Day Count", .text i.swapDayCount.name],
    [.text "Fixed Leg Interval", .text i.fixedLegInterval.text],
    [.text "Region", .text (i.region.elim "-" Identifier.text)]]

/-- The quotes of a curve input by tenor as a sheet. -/
def quoteSheet (i : CurveInput) : Sheet where
  title := "Quotes"
  columns := [⟨"Instrument", "instrument"⟩, ⟨"Tenor", "tenor"⟩, ⟨"Rate", "rate"⟩]
  rows := i.quotes.map fun q => [.text q.instrument.name, .text q.tenor.text, .float q.rate]

/-- The contents of a curve input: in a document all of it, between commas its quotes. -/
def curveContents (p : Presentation) (i : CurveInput) : Output :=
  match p.format with
  | .json => .document (Encode.curveInput i)
  | .csv => p.sheet (quoteSheet i)
  | .table => p.sheet (fieldSheet i) ++ p.sheet (quoteSheet i)

def validateCurve (files : Files) (p : Presentation) (path : String) :
    Except CommandError Output :=
  match files.curveInput path with
  | .error e => .error (.file e)
  | .ok i =>
    .ok (curveContents p i ++
      p.success (path ++ " is valid (" ++ toString i.cash.size ++ " cash, " ++
        toString i.swap.size ++ " swap)"))

/-! ## Nodes -/

/-- Registers the holiday files of regions in order. The holidays are named as their region. -/
def registerAll (files : Files) (r : Registry) :
    List (String × String) → Except CommandError Registry
  | [] => .ok r
  | (key, path) :: rest =>
    match Identifier.parse key with
    | .error e => .error (.value e)
    | .ok region =>
      match files.holidayList region.value path with
      | .error e => .error (.file e)
      | .ok h => registerAll files (r.register region h.calendar) rest

def configuredCalendars (files : Files) (s : Settings) : Except CommandError Registry :=
  registerAll files .empty s.calendarsInOrder

/-- Registers the holiday file that is named for the command, for the input's region. -/
def registerNamed (files : Files) (path : String) (i : CurveInput) (r : Registry) :
    Option String → Except CommandError Registry
  | none => .ok r
  | some holidays =>
    match i.region with
    | none => .error (.regionNeeded path)
    | some region =>
      match files.holidayList region.value holidays with
      | .error e => .error (.file e)
      | .ok h => .ok (r.register region h.calendar)

/-- The calendars for a curve input. -/
def calendarsFor (files : Files) (s : Settings) (path : String) (i : CurveInput)
    (holidays : Option String) : Except CommandError Registry :=
  match configuredCalendars files s with
  | .error e => .error e
  | .ok r => registerNamed files path i r holidays

/-- The nodes of the curve input in a document. -/
def nodesOf (files : Files) (s : Settings) (path : String) (holidays : Option String) :
    Except CommandError (List CurveNode) :=
  match files.curveInput path with
  | .error e => .error (.file e)
  | .ok i =>
    match calendarsFor files s path i holidays with
    | .error e => .error e
    | .ok r => (i.nodes r).mapError .structural

/-- Nodes as a sheet, with year fractions rounded to some decimal places. -/
def nodeSheet (precision : Nat) (ns : List CurveNode) : Sheet where
  title := "Curve Nodes"
  columns := [⟨"Instrument", "instrument"⟩, ⟨"Tenor", "tenor"⟩, ⟨"Maturity", "maturity"⟩,
    ⟨"Year Fraction", "year_fraction"⟩, ⟨"Rate", "rate"⟩]
  rows := ns.map fun n =>
    [.text n.quote.instrument.name, .text n.quote.tenor.text, .text n.maturity.text,
      .decimal (n.yearFraction.roundPlaces precision), .float n.quote.rate]

/-- Dates the quotes of a curve input. -/
def curveNodes (files : Files) (s : Settings) (p : Presentation) (path : String)
    (holidays : Option String) : Except CommandError Output :=
  match nodesOf files s path holidays with
  | .error e => .error e
  | .ok ns => .ok (p.sheet (nodeSheet p.precision ns))

end TermStructure.Command
