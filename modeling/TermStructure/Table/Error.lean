import TermStructure.Error

/-!
# Errors of tables, data sets and curve inputs

Why entries do not form a table, why quotes do not form a data set, and why fields do not form a
curve input. Each error is a cause; `message` words it.
-/

namespace TermStructure

/-- The fields that a curve input must have. -/
inductive CurveField where
  | currency
  | curveDayCount
  | convention
  | cashDayCount
  | swapDayCount
  | spotDate
  | fixedLegInterval
  | cash
  | swap
deriving DecidableEq, Repr

def CurveField.name : CurveField → String
  | currency => "currency"
  | curveDayCount => "curve_day_count"
  | convention => "curve_business_day_convention"
  | cashDayCount => "cash_day_count"
  | swapDayCount => "swap_day_count"
  | spotDate => "spot_date"
  | fixedLegInterval => "swap_fixed_leg_interval"
  | cash => "cash"
  | swap => "swap"

/-- An error of a table, a data set or a curve input. -/
inductive StructureError where
  | value (error : ValueError)
  | emptyTable
  | missingOrigin (found : Tenor)
  | gapOrOverlap (previousStop : Option Tenor) (start : Tenor)
  | unterminatedTable (found : Tenor)
  | duplicateStart (start : Tenor)
  | invalidInterval (start stop : Tenor)
  | overlappingTenors (tenors : List Tenor)
  | duplicateTenor (tenor : Tenor)
  | missingField (field : CurveField)
deriving DecidableEq, Repr

def StructureError.message : StructureError → String
  | value error => error.message
  | emptyTable => "Term structure table requires at least one entry"
  | missingOrigin found => "Start tenor of first entry should be 0D but was " ++ found.text
  | gapOrOverlap previousStop start =>
    "Start tenor " ++ start.text ++ " does not equal previous end tenor " ++
      previousStop.elim "unbounded" Tenor.text
  | unterminatedTable found => "End tenor of last entry should be unbounded but was " ++ found.text
  | duplicateStart start => "More than one entry starts at tenor " ++ start.text
  | invalidInterval start stop =>
    "Invalid interval: end " ++ stop.text ++ " must be after start " ++ start.text
  | overlappingTenors tenors =>
    "Cash and swap tenors should not overlap: " ++ ", ".intercalate (tenors.map Tenor.text)
  | duplicateTenor tenor => "Tenor " ++ tenor.text ++ " appears more than once in data set"
  | missingField field => "Missing required field: " ++ field.name

end TermStructure
