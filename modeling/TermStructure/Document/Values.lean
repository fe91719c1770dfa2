import TermStructure.Curve.Input
import TermStructure.Document.Decode
import TermStructure.Table.Volatility
import TermStructure.Tenor.Reader

/-!
# Reading domain values

How tenors, dates, intervals, tables, quotes and curve inputs are read from documents. Intervals and
tables are checked when their record has been read, so no document gives an invalid one. A
`CurveDraft` is read without a check; whoever wants the input builds it.
-/

namespace TermStructure.Decode

variable {V : Type}

/-! ## Basic values -/

def tenor : Reader Tenor :=
  fun _ t => (text "a string" t).bind fun s => check .value (Tenor.parse s)

def date : Reader Date :=
  fun _ t => (text "a formatted date string" t).bind fun s => check .dateText (Date.ofText s)

def dayCount : Reader DayCount :=
  fun _ t => (text "a string" t).bind fun s => check .value (DayCount.parse s)

def identifier : Reader Identifier :=
  fun _ t => (text "a string" t).bind fun s => check .value (Identifier.parse s)

/-- The names of currencies in documents. -/
def currencies : Variants Currency where
  names := Currency.all.map Currency.code
  ofName? := Currency.ofCode?

def currency : Reader Currency :=
  variant currencies

/-- The names of business day conventions in documents. -/
def conventions : Variants Convention where
  names := Convention.all.map Convention.documentName
  ofName? := Convention.ofDocumentName?

def convention : Reader Convention :=
  variant conventions

/-! ## Intervals and tables -/

/-- The fields of an interval or an entry that have been read. -/
structure EntryParts (V : Type) where
  start : Option Tenor := none
  stop : Option Tenor := none
  value : Option V := none

def startField : Field (EntryParts V) :=
  field "start" false tenor fun t p => { p with start := some t }

/-- The end of an interval, which may be missing. -/
def stopField : Field (EntryParts V) :=
  field "end" true (nullable tenor) fun t p => { p with stop := t }

def valueField (r : Reader V) : Field (EntryParts V) :=
  field "value" false r fun v p => { p with value := some v }

def interval : Reader Interval :=
  fun format t => do
    let fields : Fields (EntryParts Unit) := ⟨"IntervalDocument", [startField, stopField], false⟩
    let p ← fields.read {} format t
    let start ← required "start" p.start
    check .structural (Interval.ofBounds start p.stop)

def entry (r : Reader V) : Reader (Entry V) :=
  fun format t => do
    let fields : Fields (EntryParts V) :=
      ⟨"EntryDocument", [startField, stopField, valueField r], false⟩
    let p ← fields.read {} format t
    let start ← required "start" p.start
    let value ← required "value" p.value
    let i ← check .structural (Interval.ofBounds start p.stop)
    return ⟨i, value⟩

/-- The entries of a table, in the order of the document and unchecked as a whole. The record is
named as the reader calls it. -/
def entries (record : String) (r : Reader V) : Reader (List (Entry V)) :=
  fun format t => do
    let fields : Fields (Option (List (Entry V))) :=
      ⟨record, [field "entries" false (sequence (entry r)) fun es _ => some es], false⟩
    let es ← fields.read none format t
    required "entries" es

def table (r : Reader V) : Reader (Table V) :=
  fun format t => (entries "TableDocument" r format t).bind fun es =>
    check .structural (Table.ofEntries es)

def volatilityTable : Reader VolatilityTable :=
  fun format t => (table float format t).map VolatilityTable.ofTable

/-! ## Quotes -/

/-- Reads the members of an object as rates by tenor, in order. A key is looked at before its value,
and a repeated tenor shows after the value. -/
def rates (format : DocumentFormat) (ending : Ending) : Quotes → List (Key × Tree) → Decoded Quotes
  | q, [] => if ending = .closed then .ok q else .error .malformed
  | _, (none, _) :: _ => .error .malformed
  | q, (some name, t) :: rest =>
    match check .value (Tenor.parse name) with
    | .error e => .error e
    | .ok tenor =>
      match float format t with
      | .error e => .error e
      | .ok rate =>
        match check .structural (q.withRate tenor rate) with
        | .error e => .error e
        | .ok q => rates format ending q rest

def quotes : Reader Quotes :=
  fun format t =>
    match t.members? with
    | some (members, ending) => rates format ending .empty members
    | none => mismatch t "a map from tenor strings to rates"

/-! ## Curve inputs -/

/-- A field of a curve input, which may be null. -/
def curveField {α : Type} (name : String) (r : Reader α) (store : Option α → CurveDraft → CurveDraft) :
    Field CurveDraft :=
  field name false (nullable r) store

def curveFields : Fields CurveDraft where
  record := "CurveInputDocument"
  fields := [
    curveField "currency" currency fun v d => { d with currency := v },
    curveField "curve_day_count" dayCount fun v d => { d with curveDayCount := v },
    curveField "curve_business_day_convention" convention fun v d => { d with convention := v },
    curveField "cash_day_count" dayCount fun v d => { d with cashDayCount := v },
    curveField "swap_day_count" dayCount fun v d => { d with swapDayCount := v },
    curveField "spot_date" date fun v d => { d with spotDate := v },
    curveField "region" identifier fun v d => { d with region := v },
    curveField "swap_fixed_leg_interval" tenor fun v d => { d with fixedLegInterval := v },
    curveField "cash" quotes fun v d => { d with cash := v },
    curveField "swap" quotes fun v d => { d with swap := v }]
  strict := false

/-- The fields of a curve input, unchecked as a whole. -/
def curveDraft : Reader CurveDraft :=
  curveFields.read CurveDraft.empty

def curveInput : Reader CurveInput :=
  fun format t => (curveDraft format t).bind fun d => check .structural d.build

end TermStructure.Decode
