import TermStructure.Error

/-!
# Moving dates

Dates move by days, by months and by tenors. Days and weeks are calendar days. Months and years
keep the day of the month where the target month has it and take its last day otherwise. A move out
of the supported years is an error, never another date.
-/

namespace TermStructure.Date

/-- The date a number of days later, if it is supported. -/
def addDays? (d : Date) (n : Int) : Option Date :=
  ofDayNumber? (d.dayNumber + n)

/-- The number of months from the first month of year 0. -/
def monthIndex (d : Date) : Int :=
  12 * d.year + (d.month - 1 : Nat)

/-- The date of a year, month and day. A day that does not exist is an error. -/
def ofYmd (year : Int) (month day : Nat) : Except ValueError Date :=
  match ofYmd? year month day with
  | some d => .ok d
  | none => .error (.invalidDate (.noSuchDay year month day))

/-- The date a number of months later, on the last day of its month if that month has no such day. Month
counts have 32 bits. -/
def addMonths (d : Date) (n : Int) : Except ValueError Date :=
  let index := d.monthIndex + n
  if -2 ^ 31 ≤ index ∧ index < 2 ^ 31 then
    let year := index / 12
    let month := (index % 12).toNat + 1
    ofYmd year month (min d.day (Civil.daysInMonth year month))
  else .error (.invalidDate (.monthsOverflow d n))

/-- The date a tenor of so many days later. -/
def addTenorDays (d : Date) (n : Nat) (t : Tenor) : Except ValueError Date :=
  match d.addDays? n with
  | some d => .ok d
  | none => .error (.invalidDate (.tenorOverflow d t))

/-- The date a tenor of so many months later. Counts from `2 ^ 31` on are refused. -/
def addTenorMonths (d : Date) (n : Nat) : Except ValueError Date :=
  if n < 2 ^ 31 then d.addMonths n else .error (.invalidDate (.monthsOutOfRange n))

def addTenor (d : Date) (t : Tenor) : Except ValueError Date :=
  match t.unit with
  | .days => d.addTenorDays t.amount t
  | .weeks => d.addTenorDays (7 * t.amount) t
  | .months => d.addTenorMonths t.amount
  | .years =>
    if 12 * t.amount < 2 ^ 32 then d.addTenorMonths (12 * t.amount)
    else .error (.invalidDate (.tenorOverflow d t))

end TermStructure.Date
