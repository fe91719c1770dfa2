import TermStructure.Calendar.Convention
import TermStructure.Currency
import TermStructure.Curve.Quotes
import TermStructure.DayCount.Basic
import TermStructure.Identifier

/-!
# Curve inputs

The market data from which a yield curve is built: cash deposits and par swaps with their
conventions. A `CurveDraft` collects the fields; `CurveDraft.build` wants every field but the region,
and no tenor that is quoted for both instruments.
-/

namespace TermStructure

/-- Quotes of cash deposits and swaps with their conventions. -/
structure CurveInput where
  currency : Currency
  curveDayCount : DayCount
  convention : Convention
  cashDayCount : DayCount
  swapDayCount : DayCount
  spotDate : Date
  region : Option Identifier
  fixedLegInterval : Tenor
  cash : Quotes
  swap : Quotes
deriving DecidableEq

/-- The fields of a curve input that are known so far. Both a builder, whose fields are set one by one, and the
record that is read from a document are such a draft. Taking a record over into a builder would copy each field
to itself, so it has no definition of its own. -/
structure CurveDraft where
  currency : Option Currency := none
  curveDayCount : Option DayCount := none
  convention : Option Convention := none
  cashDayCount : Option DayCount := none
  swapDayCount : Option DayCount := none
  spotDate : Option Date := none
  region : Option Identifier := none
  fixedLegInterval : Option Tenor := none
  cash : Option Quotes := none
  swap : Option Quotes := none
deriving DecidableEq

/-- One field with its value. -/
inductive CurveSetting where
  | currency (value : Currency)
  | curveDayCount (value : DayCount)
  | convention (value : Convention)
  | cashDayCount (value : DayCount)
  | swapDayCount (value : DayCount)
  | spotDate (value : Date)
  | region (value : Option Identifier)
  | fixedLegInterval (value : Tenor)
  | cash (value : Quotes)
  | swap (value : Quotes)
deriving DecidableEq

namespace CurveDraft

def empty : CurveDraft := {}

/-- Sets a field, in place of an earlier value. A region can also be cleared. -/
def set (d : CurveDraft) : CurveSetting → CurveDraft
  | .currency value => { d with currency := some value }
  | .curveDayCount value => { d with curveDayCount := some value }
  | .convention value => { d with convention := some value }
  | .cashDayCount value => { d with cashDayCount := some value }
  | .swapDayCount value => { d with swapDayCount := some value }
  | .spotDate value => { d with spotDate := some value }
  | .region value => { d with region := value }
  | .fixedLegInterval value => { d with fixedLegInterval := some value }
  | .cash value => { d with cash := some value }
  | .swap value => { d with swap := some value }

/-- The value of a mandatory field. -/
def require {α : Type u} (value : Option α) (field : CurveField) : Except StructureError α :=
  match value with
  | some a => .ok a
  | none => .error (.missingField field)

/-- The input with the fields of the draft, or the first mandatory field that is missing. -/
def complete (d : CurveDraft) : Except StructureError CurveInput := do
  let currency ← require d.currency .currency
  let curveDayCount ← require d.curveDayCount .curveDayCount
  let convention ← require d.convention .convention
  let cashDayCount ← require d.cashDayCount .cashDayCount
  let swapDayCount ← require d.swapDayCount .swapDayCount
  let spotDate ← require d.spotDate .spotDate
  let fixedLegInterval ← require d.fixedLegInterval .fixedLegInterval
  let cash ← require d.cash .cash
  let swap ← require d.swap .swap
  return ⟨currency, curveDayCount, convention, cashDayCount, swapDayCount, spotDate, d.region,
    fixedLegInterval, cash, swap⟩

/-- The complete input, if cash and swaps have no tenor in common. -/
def build (d : CurveDraft) : Except StructureError CurveInput :=
  match d.complete with
  | .error e => .error e
  | .ok input =>
    match input.cash.commonTenors input.swap with
    | [] => .ok input
    | tenors => .error (.overlappingTenors tenors)

end CurveDraft

namespace CurveInput

/-- A draft with all fields of an input. -/
def toDraft (i : CurveInput) : CurveDraft where
  currency := some i.currency
  curveDayCount := some i.curveDayCount
  convention := some i.convention
  cashDayCount := some i.cashDayCount
  swapDayCount := some i.swapDayCount
  spotDate := some i.spotDate
  region := i.region
  fixedLegInterval := some i.fixedLegInterval
  cash := some i.cash
  swap := some i.swap

def quoteCount (i : CurveInput) : Nat :=
  i.cash.size + i.swap.size

end CurveInput

end TermStructure
