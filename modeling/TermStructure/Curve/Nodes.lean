import TermStructure.Calendar.Registry
import TermStructure.Curve.Input
import TermStructure.DayCount.YearFraction

/-!
# Curve nodes

A curve input quotes rates at tenors; a node dates such a quote. Its maturity is the spot date moved
by the tenor and adjusted to a business day, and its year fraction runs from the spot date to the
maturity in the day count of the instrument. Nodes are listed by tenor. The quotes are dated in the
order cash, then swaps, and the first one that cannot be dated is the error.
-/

namespace TermStructure

inductive Instrument where
  | cash
  | swap
deriving DecidableEq, Repr

namespace Instrument

def name : Instrument → String
  | cash => "Cash"
  | swap => "Swap"

instance : ToString Instrument := ⟨name⟩

end Instrument

/-- A rate at a tenor for an instrument. -/
structure Quote where
  instrument : Instrument
  tenor : Tenor
  rate : Float
deriving DecidableEq

def Quote.tenorLe (a b : Quote) : Bool :=
  a.tenor.le b.tenor

/-- A quote with its maturity and year fraction. -/
structure CurveNode where
  quote : Quote
  maturity : Date
  yearFraction : Decimal
deriving DecidableEq

namespace CurveInput

def quotesOf (i : CurveInput) : Instrument → Quotes
  | .cash => i.cash
  | .swap => i.swap

def dayCountOf (i : CurveInput) : Instrument → DayCount
  | .cash => i.cashDayCount
  | .swap => i.swapDayCount

/-- The quotes of one instrument by tenor. -/
def leg (i : CurveInput) (instrument : Instrument) : List Quote :=
  (i.quotesOf instrument).points.map fun p => ⟨instrument, p.1, p.2⟩

/-- All quotes, cash first, each instrument by tenor. -/
def legs (i : CurveInput) : List Quote :=
  i.leg .cash ++ i.leg .swap

/-- All quotes by tenor. -/
def quotes (i : CurveInput) : List Quote :=
  i.legs.mergeSort Quote.tenorLe

/-- The maturity of a tenor on a calendar. -/
def maturity (i : CurveInput) (calendar : Calendar) (tenor : Tenor) : Except ValueError Date :=
  match i.spotDate.addTenor tenor with
  | .ok d => calendar.adjust d i.convention
  | .error e => .error e

def node (i : CurveInput) (calendar : Calendar) (q : Quote) : Except StructureError CurveNode :=
  match i.maturity calendar q.tenor with
  | .ok d => .ok ⟨q, d, (i.dayCountOf q.instrument).yearFraction i.spotDate d⟩
  | .error e => .error (.value e)

/-- The nodes of some quotes in order, or the first error. -/
def nodesOf (i : CurveInput) (calendar : Calendar) :
    List Quote → Except StructureError (List CurveNode)
  | [] => .ok []
  | q :: rest =>
    match i.node calendar q with
    | .error e => .error e
    | .ok n =>
      match i.nodesOf calendar rest with
      | .error e => .error e
      | .ok ns => .ok (n :: ns)

/-- All nodes by tenor, on the calendar of the input's region. -/
def nodes (i : CurveInput) (calendars : Registry) : Except StructureError (List CurveNode) :=
  match i.nodesOf (calendars.resolve i.region) i.legs with
  | .ok ns => .ok (ns.mergeSort fun a b => a.quote.tenorLe b.quote)
  | .error e => .error e

end CurveInput

end TermStructure
