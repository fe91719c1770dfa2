import TermStructure.Curve.Nodes
import TermStructure.Document.Tree
import TermStructure.Table.Volatility

/-!
# Writing domain values

How tenors, dates, intervals, tables, quotes, curve inputs and nodes stand in documents. What is
absent, such as the end of an unbounded interval, is left out.
-/

namespace TermStructure.Encode

variable {V : Type}

/-- A member that is left out if it is absent. -/
def optionalMember (name : String) (t : Option Tree) : List (String × Tree) :=
  t.toList.map fun t => (name, t)

def tenor (t : Tenor) : Tree := .ofText t.text

def date (d : Date) : Tree := .ofText d.text

def currency (c : Currency) : Tree := .ofText c.code

def dayCount (c : DayCount) : Tree := .ofText c.name

def convention (c : Convention) : Tree := .ofText c.documentName

def identifier (id : Identifier) : Tree := .ofText id.text

/-- A decimal, as the double of its value. -/
def decimal (x : Decimal) : Tree := .ofFloat x.toFloat

def int (n : Int) : Tree := .number (.int n)

/-- The members of an interval. -/
def bounds (i : Interval) : List (String × Tree) :=
  ("start", tenor i.start) :: optionalMember "end" (i.stop.map tenor)

def interval (i : Interval) : Tree := .ofMembers (bounds i)

def entry (value : V → Tree) (e : Entry V) : Tree :=
  .ofMembers (bounds e.interval ++ [("value", value e.value)])

def table (value : V → Tree) (t : Table V) : Tree :=
  .ofMembers [("entries", .ofItems (t.toList.map (entry value)))]

def volatilityTable (v : VolatilityTable) : Tree := table .ofFloat v.table

def quotes (q : Quotes) : Tree :=
  .ofMembers (q.points.map fun p => (p.1.text, .ofFloat p.2))

def curveInput (i : CurveInput) : Tree :=
  .ofMembers (
    [("currency", currency i.currency),
      ("curve_day_count", dayCount i.curveDayCount),
      ("curve_business_day_convention", convention i.convention),
      ("cash_day_count", dayCount i.cashDayCount),
      ("swap_day_count", dayCount i.swapDayCount),
      ("spot_date", date i.spotDate)] ++
    optionalMember "region" (i.region.map identifier) ++
    [("swap_fixed_leg_interval", tenor i.fixedLegInterval),
      ("cash", quotes i.cash),
      ("swap", quotes i.swap)])

def curveNode (n : CurveNode) : Tree :=
  .ofMembers [
    ("kind", .ofText n.quote.instrument.name),
    ("tenor", tenor n.quote.tenor),
    ("maturity", date n.maturity),
    ("year_fraction", decimal n.yearFraction),
    ("rate", .ofFloat n.quote.rate)]

def curveNodes (ns : List CurveNode) : Tree :=
  .ofItems (ns.map curveNode)

end TermStructure.Encode
