import TermStructure.Error
import TermStructure.Text.Blank
import TermStructure.Text.Capital

/-!
# Day counts

A day count says how many days lie between two dates. The three actual conventions count calendar
days. The two 30/360 conventions give each month thirty days: they count from the parts of the
dates, after days at a month's end have been moved to the thirtieth. The American rule treats the
last day of February as a month's end and moves the second date only along with the first; the
European rule moves every 31st.
-/

namespace TermStructure

inductive DayCount where
  | actual360
  | actual365Fixed
  | actualActual
  | thirty360US
  | thirty360European
deriving DecidableEq, Repr

namespace DayCount

/-- All conventions, in the order of listings. -/
def all : List DayCount :=
  [actual360, actual365Fixed, actualActual, thirty360US, thirty360European]

/-! ## Names -/

def name : DayCount → String
  | actual360 => "ACT/360"
  | actual365Fixed => "ACT/365F"
  | actualActual => "ACT/ACT ISDA"
  | thirty360US => "30/360 US"
  | thirty360European => "30E/360"

instance : ToString DayCount := ⟨name⟩

/-- The names by which a convention is known, in capitals. -/
def aliases : DayCount → List String
  | actual360 => ["ACT/360", "ACTUAL/360", "ACT360"]
  | actual365Fixed =>
    ["ACT/365", "ACT/365F", "ACT/365 FIXED", "ACTUAL/365", "ACT365FIXED", "ACT365"]
  | actualActual =>
    ["ACT/ACT", "ACT/ACT ISDA", "ACTUAL/ACTUAL", "ACTUAL/ACTUAL ISDA", "ACTACTISDA"]
  | thirty360US => ["30/360", "30/360 US", "30U/360", "BOND", "THIRTY360US"]
  | thirty360European => ["30E/360", "EUROBOND", "THIRTY360E"]

/-- The convention that is known by a name in capitals. -/
def ofName? (name : String) : Option DayCount :=
  all.find? (·.aliases.contains name)

/-- Reads a name in any case, with blanks around it. -/
def parse (s : String) : Except ValueError DayCount :=
  match ofName? (String.ofList (Text.capitals (Text.trim s.toList))) with
  | some c => .ok c
  | none => .error (.unknownDayCount s)

theorem ofName?_name (c : DayCount) : ofName? c.name = some c := by
  cases c <;> decide

/-! ## Thirty days a month -/

def isEndOfFebruary (d : Date) : Bool :=
  d.month == 2 && d.isEndOfMonth

/-- The days between two dates in months of thirty days, with their days of the month replaced. -/
def thirtyDayMonths (a b : Date) (aDay bDay : Nat) : Int :=
  360 * (b.year - a.year) + 30 * ((b.month : Int) - a.month) + bDay - aDay

/-- The day that the American rule gives the first date. -/
def startDayUS (a : Date) : Nat :=
  if isEndOfFebruary a || a.day == 31 then 30 else a.day

/-- The day that the American rule gives the second date. -/
def endDayUS (a b : Date) : Nat :=
  if isEndOfFebruary a && isEndOfFebruary b then 30
  else if b.day == 31 && 30 ≤ startDayUS a then 30
  else b.day

/-- The number of days from `a` to `b`, negative if `b` is earlier. -/
def days (c : DayCount) (a b : Date) : Int :=
  match c with
  | actual360 | actual365Fixed | actualActual => a.daysBetween b
  | thirty360US => thirtyDayMonths a b (startDayUS a) (endDayUS a b)
  | thirty360European => thirtyDayMonths a b (min a.day 30) (min b.day 30)

end DayCount

end TermStructure
