import TermStructure.Date.Civil
import TermStructure.Text.Numeral

/-!
# Dates

A date is a day of the Gregorian calendar in the years -262143 to 262142. Dates are ordered by year,
month and day. `ofYmd?` admits exactly the existing days, `dayNumber` numbers them without gaps, and
`ofDayNumber?` reads a number back.
-/

namespace TermStructure

/-- A day of the supported years. -/
structure Date where
  year : Int
  month : Nat
  day : Nat
  year_mem : -262143 ≤ year ∧ year ≤ 262142
  month_mem : 1 ≤ month ∧ month ≤ 12
  day_mem : 1 ≤ day ∧ day ≤ Civil.daysInMonth year month
deriving DecidableEq, Repr

inductive Weekday where
  | monday
  | tuesday
  | wednesday
  | thursday
  | friday
  | saturday
  | sunday
deriving DecidableEq, Repr

namespace Date

def minYear : Int := -262143

def maxYear : Int := 262142

def first : Date := ⟨-262143, 1, 1, by decide, by decide, by decide⟩

def last : Date := ⟨262142, 12, 31, by decide, by decide, by decide⟩

instance : Inhabited Date := ⟨first⟩

/-- The date of a year, month and day, if there is such a day. -/
def ofYmd? (year : Int) (month day : Nat) : Option Date :=
  if h : (-262143 ≤ year ∧ year ≤ 262142) ∧ (1 ≤ month ∧ month ≤ 12) ∧
      (1 ≤ day ∧ day ≤ Civil.daysInMonth year month) then
    some ⟨year, month, day, h.1, h.2.1, h.2.2⟩
  else none

/-- By year, then by month, then by day. -/
instance : Ord Date where
  compare a b :=
    (compare a.year b.year).then ((compare a.month b.month).then (compare a.day b.day))

def le (a b : Date) : Bool :=
  (compare a b).isLE

def lt (a b : Date) : Bool :=
  compare a b == .lt

instance : LE Date := ⟨fun a b => a.le b⟩

instance : LT Date := ⟨fun a b => a.lt b⟩

/-- The place of the day in its year, counted from 1. -/
def ordinal (d : Date) : Nat :=
  Civil.daysBeforeMonth d.year d.month + d.day

/-- The number of the day; 1 January of year 1 has number 1. -/
def dayNumber (d : Date) : Int :=
  Civil.dayNumber d.year d.month d.day

/-- The supported day with a given number. -/
def ofDayNumber? (n : Int) : Option Date :=
  let year := Civil.yearOfDay n
  let ordinal := (n - Civil.daysBeforeYear year).toNat
  let month := Civil.monthOfOrdinal year ordinal
  ofYmd? year month (ordinal - Civil.daysBeforeMonth year month)

/-- The number of days from `a` to `b`, negative if `b` is earlier. -/
def daysBetween (a b : Date) : Int :=
  b.dayNumber - a.dayNumber

def isLeapYear (d : Date) : Bool :=
  Civil.isLeapYear d.year

def daysInYear (d : Date) : Nat :=
  Civil.daysInYear d.year

def daysInMonth (d : Date) : Nat :=
  Civil.daysInMonth d.year d.month

def endOfMonth (d : Date) : Date :=
  ⟨d.year, d.month, Civil.daysInMonth d.year d.month, d.year_mem, d.month_mem,
    Nat.le_trans d.day_mem.1 d.day_mem.2, Nat.le_refl _⟩

def isEndOfMonth (d : Date) : Bool :=
  d.day == d.daysInMonth

/-- The day of the week; day 1 is a Monday. -/
def weekday (d : Date) : Weekday :=
  match (d.dayNumber % 7).toNat with
  | 1 => .monday
  | 2 => .tuesday
  | 3 => .wednesday
  | 4 => .thursday
  | 5 => .friday
  | 6 => .saturday
  | _ => .sunday

def isWeekend (d : Date) : Bool :=
  d.weekday == .saturday || d.weekday == .sunday

/-- A year as four digits or more; years that need a fifth digit carry a sign, as negative ones
do. -/
def yearChars (year : Int) : List Char :=
  if year < 0 then '-' :: Numeral.paddedDigits 4 year.natAbs
  else if 9999 < year then '+' :: Numeral.paddedDigits 4 year.natAbs
  else Numeral.paddedDigits 4 year.natAbs

/-- The year, the month in two digits and the day in two digits, joined by hyphens. -/
def chars (d : Date) : List Char :=
  yearChars d.year ++ '-' :: Numeral.paddedDigits 2 d.month ++ '-' :: Numeral.paddedDigits 2 d.day

/-- The text of a date, such as `2024-02-29`. -/
def text (d : Date) : String :=
  String.ofList d.chars

instance : ToString Date := ⟨text⟩

end Date

end TermStructure
