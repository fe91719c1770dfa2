import TermStructure.DayCount.Basic
import TermStructure.Number.Decimal

/-!
# Year fractions

A year fraction is a number of days over the length of a year. Four of the conventions divide by a
fixed length. Actual/actual splits the days into calendar years (`yearSpans`), divides each span by
the length of its year, and adds the quotients up in order; it gives nothing to dates in reverse.
-/

namespace TermStructure.DayCount

/-- Some calendar years in a row with all of their days. -/
def wholeYears (year : Int) : Nat → List (Int × Int)
  | 0 => []
  | n + 1 => (year, Civil.daysInYear year) :: wholeYears (year + 1) n

/-- The calendar years from `a` to `b`, each with the number of its days that are no earlier than
`a` and before `b`. -/
def yearSpans (a b : Date) : List (Int × Int) :=
  if a.year < b.year then
    (a.year, (Civil.daysInYear a.year : Int) - a.ordinal + 1) ::
      wholeYears (a.year + 1) (b.year - a.year - 1).toNat ++ [(b.year, (b.ordinal : Int) - 1)]
  else [(a.year, a.daysBetween b)]

/-- Adds the share of one calendar year to a total. -/
def addShare (total : Decimal) (span : Int × Int) : Decimal :=
  total + Decimal.divide span.2 (Civil.daysInYear span.1)

def yearFraction (c : DayCount) (a b : Date) : Decimal :=
  match c with
  | actual360 | thirty360US | thirty360European => Decimal.divide (c.days a b) 360
  | actual365Fixed => Decimal.divide (c.days a b) 365
  | actualActual => if a.lt b then (yearSpans a b).foldl addShare Decimal.zero else Decimal.zero

end TermStructure.DayCount
