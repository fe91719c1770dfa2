import TermStructure.Proofs.Date.Shift

/-!
# Dates in machine words

The arithmetic of dates in words of 32 and 64 bits, step by step: a step whose result does not fit its
word stops the whole computation, and so does adding days that lead out of the supported years. An error
is a result. None of the computations stops, and each gives what it gives over all integers
(`Words.endOfMonth_eq`, `Words.addMonths_eq`, `Words.addTenor_eq`): a day is no later than the last one of
its month, and the supported years are few next to the numbers of a word.
-/

namespace TermStructure.Words

/-! ## Words -/

/-- An integer of 32 bits. -/
def int32 (n : Int) : Option Int :=
  if -2 ^ 31 ≤ n ∧ n < 2 ^ 31 then some n else none

/-- An integer of 64 bits. -/
def int64 (n : Int) : Option Int :=
  if -2 ^ 63 ≤ n ∧ n < 2 ^ 63 then some n else none

/-- An integer of 32 bits without a sign. -/
def nat32 (n : Int) : Option Nat :=
  if 0 ≤ n ∧ n < 2 ^ 32 then some n.toNat else none

variable {n : Int}

theorem int32_eq (hlow : -2 ^ 31 ≤ n) (hhigh : n < 2 ^ 31) : int32 n = some n :=
  if_pos ⟨hlow, hhigh⟩

theorem int64_eq (hlow : -2 ^ 63 ≤ n) (hhigh : n < 2 ^ 63) : int64 n = some n :=
  if_pos ⟨hlow, hhigh⟩

theorem nat32_eq (hlow : 0 ≤ n) (hhigh : n < 2 ^ 32) : nat32 n = some n.toNat :=
  if_pos ⟨hlow, hhigh⟩

/-- A computation goes on after a step that gives a result. -/
theorem bind_of_eq {α β : Type} {x : Option α} {f : α → Option β} {a : α} (h : x = some a) :
    x >>= f = f a := by
  rw [h]
  rfl

/-! ## Days -/

/-- The date a number of days later. Out of the supported years the computation stops. -/
def addDays (d : Date) (n : Int) : Option Date :=
  d.addDays? n

/-- The number of days from one date to another. -/
def daysBetween (a b : Date) : Option Int :=
  int64 (b.dayNumber - a.dayNumber)

/-- The last day of the month, by the number of days that are left in it. -/
def endOfMonth (d : Date) : Option Date := do
  let left ← nat32 ((d.daysInMonth : Int) - d.day)
  addDays d left

theorem addDays_last : addDays Date.last 1 = none := by
  decide

/-- The numbers of all dates are far from the bounds of a word. -/
theorem dayNumber_mem (d : Date) : -95746129 ≤ d.dayNumber ∧ d.dayNumber ≤ 95745399 := by
  have hfirst := Civil.daysBeforeYear_le_iff.2 d.year_mem.1
  have hlast := Civil.daysBeforeYear_le_iff.2 (Int.add_le_add_right d.year_mem.2 1)
  have hlow : Civil.daysBeforeYear (-262143) = -95746130 := by decide
  have hhigh : Civil.daysBeforeYear (262142 + 1) = 95745399 := by decide
  have hafter := d.daysBeforeYear_lt
  have hbefore := d.dayNumber_le
  omega

theorem daysBetween_eq (a b : Date) : daysBetween a b = some (a.daysBetween b) := by
  have ha := dayNumber_mem a
  have hb := dayNumber_mem b
  exact int64_eq (by omega) (by omega)

theorem endOfMonth_eq (d : Date) : endOfMonth d = some d.endOfMonth := by
  have hday := d.day_mem
  have hlength := Civil.daysInMonth_le d.year d.month
  have hleft : nat32 ((d.daysInMonth : Int) - d.day) = some (d.daysInMonth - d.day) := by
    rw [Date.daysInMonth, nat32_eq (by omega) (by omega)]
    congr 1
    omega
  have hend : addDays d (d.daysInMonth - d.day : Nat) = some d.endOfMonth := by
    refine Date.addDays?_eq_some_iff.2 ?_
    simp only [Date.endOfMonth, Date.dayNumber, Civil.dayNumber, Date.daysInMonth]
    omega
  rw [endOfMonth, bind_of_eq hleft]
  exact hend

/-! ## Months -/

/-- The date a number of months later: the place of the month is computed step by step and then checked
as a whole. -/
def addMonths (d : Date) (n : Int) : Option (Except ValueError Date) := do
  let years ← int32 (d.year * 12)
  let months ← int32 (years + d.month)
  let index ← int32 (months - 1)
  (int32 (index + n)).elim (return .error (.invalidDate (.monthsOverflow d n))) fun total => do
    let year ← int32 (total / 12)
    let month ← nat32 (total % 12 + 1)
    return Date.ofYmd year month (min d.day (Civil.daysInMonth year month))

theorem addMonths_eq (d : Date) (n : Int) : addMonths d n = some (d.addMonths n) := by
  have hyear := d.year_mem
  have hmonth := d.month_mem
  have hyears : int32 (d.year * 12) = some (d.year * 12) := int32_eq (by omega) (by omega)
  have hmonths : int32 (d.year * 12 + d.month) = some (d.year * 12 + d.month) :=
    int32_eq (by omega) (by omega)
  have hindex : int32 (d.year * 12 + d.month - 1) = some d.monthIndex := by
    rw [int32_eq (by omega) (by omega), Date.monthIndex]
    congr 1
    omega
  rw [addMonths, bind_of_eq hyears, bind_of_eq hmonths, bind_of_eq hindex, Date.addMonths]
  by_cases htotal : -2 ^ 31 ≤ d.monthIndex + n ∧ d.monthIndex + n < 2 ^ 31
  · have hnewYear : int32 ((d.monthIndex + n) / 12) = some ((d.monthIndex + n) / 12) :=
      int32_eq (by omega) (by omega)
    have hnewMonth : nat32 ((d.monthIndex + n) % 12 + 1) =
        some (((d.monthIndex + n) % 12).toNat + 1) := by
      rw [nat32_eq (by omega) (by omega)]
      congr 1
      omega
    rw [int32_eq htotal.1 htotal.2, if_pos htotal, Option.elim_some, bind_of_eq hnewYear,
      bind_of_eq hnewMonth]
    rfl
  · have hnone : int32 (d.monthIndex + n) = none := if_neg htotal
    rw [hnone, if_neg htotal, Option.elim_none]
    rfl

/-! ## Tenors -/

/-- The date a tenor of so many months later. The months, which have no sign, are first made a word with
one. -/
def addTenorMonths (d : Date) (months : Nat) : Option (Except ValueError Date) :=
  (int32 months).elim (some (.error (.invalidDate (.monthsOutOfRange months)))) (addMonths d)

/-- The date a tenor later: weeks are multiplied in 64 bits, years in 32 bits with a check. -/
def addTenor (d : Date) (t : Tenor) : Option (Except ValueError Date) :=
  match t.unit with
  | .days => some (d.addTenorDays t.amount t)
  | .weeks => (int64 (t.amount * 7)).map fun days => d.addTenorDays days.toNat t
  | .months => addTenorMonths d t.amount
  | .years =>
    (nat32 (t.amount * 12)).elim (some (.error (.invalidDate (.tenorOverflow d t)))) (addTenorMonths d)

theorem addTenorMonths_eq (d : Date) (n : Nat) : addTenorMonths d n = some (d.addTenorMonths n) := by
  rw [addTenorMonths, Date.addTenorMonths]
  by_cases hn : n < 2 ^ 31
  · rw [int32_eq (by omega) (by omega), if_pos hn]
    exact addMonths_eq d n
  · have hlarge : ¬ (-2 ^ 31 ≤ (n : Int) ∧ (n : Int) < 2 ^ 31) := by omega
    have hnone : int32 n = none := if_neg hlarge
    rw [hnone, if_neg hn]
    rfl

theorem addTenor_eq (d : Date) (t : Tenor) : addTenor d t = some (d.addTenor t) := by
  have hamount := t.amount_lt
  rw [addTenor, Date.addTenor]
  cases t.unit with
  | days => rfl
  | weeks =>
    have hdays : int64 ((t.amount : Int) * 7) = some ((t.amount : Int) * 7) :=
      int64_eq (by omega) (by omega)
    have hnat : ((t.amount : Int) * 7).toNat = 7 * t.amount := by omega
    simp only [hdays, Option.map_some, hnat]
  | months => exact addTenorMonths_eq d t.amount
  | years =>
    by_cases hmonths : 12 * t.amount < 2 ^ 32
    · have hvalue : ((t.amount : Int) * 12).toNat = 12 * t.amount := by omega
      rw [nat32_eq (by omega) (by omega), hvalue, if_pos hmonths, Option.elim_some]
      exact addTenorMonths_eq d (12 * t.amount)
    · have hlarge : ¬ (0 ≤ (t.amount : Int) * 12 ∧ (t.amount : Int) * 12 < 2 ^ 32) := by omega
      have hnone : nat32 ((t.amount : Int) * 12) = none := if_neg hlarge
      simp only [hnone, if_neg hmonths, Option.elim_none]

end TermStructure.Words
