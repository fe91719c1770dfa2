/-!
# The Gregorian calendar

Leap years, lengths of months, and the numbering of days by integers: day 1 is 1 January of year 1,
and the calendar is extended without end in both directions. `dayNumber` numbers a civil date,
`yearOfDay` and `monthOfOrdinal` recover the parts of a day from its number.
-/

namespace TermStructure.Civil

/-- Every fourth year is a leap year, except the centuries that 400 does not divide. -/
def isLeapYear (year : Int) : Bool :=
  year % 4 == 0 && (year % 100 != 0 || year % 400 == 0)

def daysInYear (year : Int) : Nat :=
  if isLeapYear year then 366 else 365

/-- The number of days of a month, counted from 1 for January. -/
def daysInMonth (year : Int) (month : Nat) : Nat :=
  match month with
  | 4 | 6 | 9 | 11 => 30
  | 2 => if isLeapYear year then 29 else 28
  | _ => 31

/-- The number of days of a year before the first of a month. -/
def daysBeforeMonth (year : Int) (month : Nat) : Nat :=
  let leap := if isLeapYear year then 1 else 0
  match month with
  | 0 | 1 => 0
  | 2 => 31
  | 3 => 59 + leap
  | 4 => 90 + leap
  | 5 => 120 + leap
  | 6 => 151 + leap
  | 7 => 181 + leap
  | 8 => 212 + leap
  | 9 => 243 + leap
  | 10 => 273 + leap
  | 11 => 304 + leap
  | 12 => 334 + leap
  | _ => 365 + leap

/-- The number of the last day before a year. -/
def daysBeforeYear (year : Int) : Int :=
  365 * (year - 1) + (year - 1) / 4 - (year - 1) / 100 + (year - 1) / 400

def dayNumber (year : Int) (month day : Nat) : Int :=
  daysBeforeYear year + daysBeforeMonth year month + day

/-- The year that a day falls in, by cycles of 400, 100, 4 and 1 years. The last century of a cycle
and the last year of four years have one day more than the others, which the count of whole
centuries or years would give to the next one. -/
def yearOfDay (n : Int) : Int :=
  let cycles := (n - 1) / 146097
  let inCycle := (n - 1) % 146097
  let centuries := inCycle / 36524
  let inCentury := inCycle % 36524
  let fours := inCentury / 1461
  let years := inCentury % 1461 / 365
  let whole := 400 * cycles + 100 * centuries + 4 * fours + years
  if centuries = 4 ∨ years = 4 then whole else whole + 1

/-- The month of the day with a given place in its year, counted from 1. -/
def monthOfOrdinal (year : Int) (ordinal : Nat) : Nat :=
  if ordinal ≤ daysBeforeMonth year 2 then 1
  else if ordinal ≤ daysBeforeMonth year 3 then 2
  else if ordinal ≤ daysBeforeMonth year 4 then 3
  else if ordinal ≤ daysBeforeMonth year 5 then 4
  else if ordinal ≤ daysBeforeMonth year 6 then 5
  else if ordinal ≤ daysBeforeMonth year 7 then 6
  else if ordinal ≤ daysBeforeMonth year 8 then 7
  else if ordinal ≤ daysBeforeMonth year 9 then 8
  else if ordinal ≤ daysBeforeMonth year 10 then 9
  else if ordinal ≤ daysBeforeMonth year 11 then 10
  else if ordinal ≤ daysBeforeMonth year 12 then 11
  else 12

theorem daysBeforeYear_add_one (year : Int) :
    daysBeforeYear (year + 1) = daysBeforeYear year + daysInYear year := by
  simp only [daysBeforeYear, daysInYear, isLeapYear, Bool.and_eq_true, Bool.or_eq_true, bne_iff_ne,
    beq_iff_eq]
  split <;> omega

/-- The days before a year that is given by its place in the cycles. -/
theorem daysBeforeYear_cycles {a b c d : Int} (hb : 0 ≤ b ∧ b ≤ 3) (hc : 0 ≤ c ∧ c ≤ 24)
    (hd : 0 ≤ d ∧ d ≤ 3) :
    daysBeforeYear (400 * a + 100 * b + 4 * c + d + 1) = 146097 * a + 36524 * b + 1461 * c + 365 * d := by
  have h4 : (400 * a + 100 * b + 4 * c + d) / 4 = 100 * a + 25 * b + c := by omega
  have h100 : (400 * a + 100 * b + 4 * c + d) / 100 = 4 * a + b := by omega
  have h400 : (400 * a + 100 * b + 4 * c + d) / 400 = a := by omega
  simp only [daysBeforeYear, Int.add_sub_cancel, h4, h100, h400]
  omega

/-- A day falls after the last day before its year, and no later than the last day of it. -/
theorem daysBeforeYear_yearOfDay (n : Int) :
    daysBeforeYear (yearOfDay n) < n ∧ n ≤ daysBeforeYear (yearOfDay n + 1) := by
  have hr : 0 ≤ (n - 1) % 146097 ∧ (n - 1) % 146097 < 146097 := by omega
  have hn : n = 146097 * ((n - 1) / 146097) + (n - 1) % 146097 + 1 := by omega
  simp only [yearOfDay]
  generalize (n - 1) / 146097 = a at hn ⊢
  generalize (n - 1) % 146097 = r at hr hn ⊢
  have hb : 0 ≤ r / 36524 ∧ r / 36524 ≤ 4 := by omega
  have hb4 : r / 36524 = 4 → r = 146096 := by omega
  have hr' : r = 36524 * (r / 36524) + r % 36524 := by omega
  have hr2 : 0 ≤ r % 36524 ∧ r % 36524 < 36524 := by omega
  generalize r / 36524 = b at *
  generalize r % 36524 = r2 at *
  have hc : 0 ≤ r2 / 1461 ∧ r2 / 1461 ≤ 24 := by omega
  have hr2' : r2 = 1461 * (r2 / 1461) + r2 % 1461 := by omega
  have hr3 : 0 ≤ r2 % 1461 ∧ r2 % 1461 < 1461 := by omega
  generalize r2 / 1461 = c at *
  generalize r2 % 1461 = r3 at *
  have hd : 0 ≤ r3 / 365 ∧ r3 / 365 ≤ 4 := by omega
  have hr3' : r3 = 365 * (r3 / 365) + r3 % 365 := by omega
  generalize r3 / 365 = d at *
  split
  next h =>
    rcases h with h | h
    · obtain ⟨rfl, rfl, rfl⟩ : b = 4 ∧ c = 0 ∧ d = 0 := by omega
      have e := @daysBeforeYear_cycles a 3 24 3 (by omega) (by omega) (by omega)
      have e' := @daysBeforeYear_cycles (a + 1) 0 0 0 (by omega) (by omega) (by omega)
      rw [show 400 * a + 100 * 4 + 4 * 0 + 0 = 400 * a + 100 * 3 + 4 * 24 + 3 + 1 by omega, e,
        show 400 * a + 100 * 3 + 4 * 24 + 3 + 1 + 1 = 400 * (a + 1) + 100 * 0 + 4 * 0 + 0 + 1 by omega, e']
      omega
    · obtain rfl : d = 4 := h
      have hb3 : b ≤ 3 := by omega
      have e := @daysBeforeYear_cycles a b c 3 (by omega) (by omega) (by omega)
      have e3 : 400 * a + 100 * b + 4 * c + 4 = 400 * a + 100 * b + 4 * c + 3 + 1 := by omega
      have leap : isLeapYear (400 * a + 100 * b + 4 * c + 4) = true := by
        simp only [isLeapYear, Bool.and_eq_true, Bool.or_eq_true, bne_iff_ne, beq_iff_eq]
        omega
      rw [daysBeforeYear_add_one, daysInYear, if_pos leap, e3, e]
      omega
  next h =>
    have e := @daysBeforeYear_cycles a b c d (by omega) (by omega) (by omega)
    have step := daysBeforeYear_add_one (400 * a + 100 * b + 4 * c + d + 1)
    have : 365 ≤ daysInYear (400 * a + 100 * b + 4 * c + d + 1) := by
      simp only [daysInYear]; split <;> omega
    omega

end TermStructure.Civil
