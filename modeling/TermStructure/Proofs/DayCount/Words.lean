import TermStructure.DayCount.YearFraction
import TermStructure.Proofs.Date.Words
import TermStructure.Proofs.DayCount.ThirtyDays
import TermStructure.Proofs.Number.Decimal

/-!
# Day counts in machine words

Days and year fractions computed step by step in machine words, as in `Words.addMonths`: a step whose
result does not fit stops the computation. Actual/actual goes from year to year: it adds the share of the
rest of a year and moves to the first day of the next one (`Words.nextYear?`). The move stays in the
supported years, since it happens only in years before that of the second date. So the loop passes year
after year (`Words.exists_passes`), and what holds of its last pass, and is handed back from a new year to
the year before, holds of all passes (`Words.Passes.induction`). They are those of `DayCount.yearSpans`. No
share is greater than one, so the total is at most the number of years (`Words.accrue_eq`).
-/

namespace TermStructure.Words

/-! ## Days -/

/-- The days between two dates in months of thirty days: years are subtracted in 32 bits, the rest is done
in 64 bits. -/
def thirtyDayMonths (a b : Date) (aDay bDay : Nat) : Option Int := do
  let years ← int32 (b.year - a.year)
  let months ← int64 ((b.month : Int) - a.month)
  let yearDays ← int64 (360 * years)
  let monthDays ← int64 (30 * months)
  let whole ← int64 (yearDays + monthDays)
  let upTo ← int64 (whole + bDay)
  int64 (upTo - aDay)

def days (c : DayCount) (a b : Date) : Option Int :=
  match c with
  | .actual360 | .actual365Fixed | .actualActual => daysBetween a b
  | .thirty360US => thirtyDayMonths a b (DayCount.startDayUS a) (DayCount.endDayUS a b)
  | .thirty360European => thirtyDayMonths a b (min a.day 30) (min b.day 30)

variable {a b c d next : Date} {n : Nat}

theorem thirtyDayMonths_eq {aDay bDay : Nat} (ha : aDay ≤ 31) (hb : bDay ≤ 31) :
    thirtyDayMonths a b aDay bDay = some (DayCount.thirtyDayMonths a b aDay bDay) := by
  have hyears : -524285 ≤ b.year - a.year ∧ b.year - a.year ≤ 524285 := by
    have hstart := a.year_mem
    have hstop := b.year_mem
    omega
  have hmonths : -11 ≤ (b.month : Int) - a.month ∧ (b.month : Int) - a.month ≤ 11 := by
    have hstart := a.month_mem
    have hstop := b.month_mem
    omega
  rw [thirtyDayMonths, DayCount.thirtyDayMonths]
  generalize b.year - a.year = years at hyears
  generalize (b.month : Int) - a.month = months at hmonths
  rw [bind_of_eq (int32_eq (by omega) (by omega)), bind_of_eq (int64_eq (by omega) (by omega)),
    bind_of_eq (int64_eq (by omega) (by omega)), bind_of_eq (int64_eq (by omega) (by omega)),
    bind_of_eq (int64_eq (by omega) (by omega)), bind_of_eq (int64_eq (by omega) (by omega)),
    int64_eq (by omega) (by omega)]

theorem startDayUS_le (a : Date) : DayCount.startDayUS a ≤ 31 :=
  (DayCount.startDayUS_mem a).2.trans (by decide)

theorem endDayUS_le (a b : Date) : DayCount.endDayUS a b ≤ 31 := by
  have hday := b.day_le
  rcases DayCount.endDayUS_le a b with hle | ⟨-, hend⟩ <;> omega

theorem days_eq (c : DayCount) (a b : Date) : days c a b = some (c.days a b) := by
  cases c with
  | actual360 => exact daysBetween_eq a b
  | actual365Fixed => exact daysBetween_eq a b
  | actualActual => exact daysBetween_eq a b
  | thirty360US => exact thirtyDayMonths_eq (startDayUS_le a) (endDayUS_le a b)
  | thirty360European => exact thirtyDayMonths_eq (by omega) (by omega)

/-! ## Year by year -/

/-- The number of days up to the first day of the next year, and that day. -/
def nextYear? (d : Date) : Option (Nat × Date) := do
  let left ← nat32 ((d.daysInYear : Int) - d.ordinal)
  let rest ← nat32 (left + 1)
  let next ← addDays d rest
  return (rest, next)

theorem one_le_january (year : Int) : 1 ≤ 1 ∧ 1 ≤ Civil.daysInMonth year 1 :=
  ⟨Nat.le_refl 1, (by decide : 1 ≤ 31)⟩

/-- The first day of a supported year. -/
def newYear (year : Int) (h : -262143 ≤ year ∧ year ≤ 262142) : Date :=
  ⟨year, 1, 1, h, Date.first.month_mem, one_le_january year⟩

section NewYear

variable {year : Int} (h : -262143 ≤ year ∧ year ≤ 262142)

theorem year_newYear : (newYear year h).year = year :=
  rfl

theorem ordinal_newYear : (newYear year h).ordinal = 1 :=
  rfl

theorem dayNumber_newYear : (newYear year h).dayNumber = Civil.daysBeforeYear year + 1 := by
  rw [Date.dayNumber_eq, year_newYear, ordinal_newYear]
  rfl

/-- No date of a year or a later one is before its first day. -/
theorem newYear_le (hyear : year ≤ b.year) : newYear year h ≤ b := by
  have hle := Civil.daysBeforeYear_le_iff.2 hyear
  have hlt := b.daysBeforeYear_lt
  rw [← Date.dayNumber_le_iff, dayNumber_newYear]
  omega

end NewYear

/-- What is left of a year, its first day of the rest included, leads to the next one. -/
theorem nextYear?_eq (h : -262143 ≤ d.year + 1 ∧ d.year + 1 ≤ 262142) :
    nextYear? d = some (d.daysInYear - d.ordinal + 1, newYear (d.year + 1) h) := by
  have hordinal := d.ordinal_mem
  have hlong : d.daysInYear ≤ 366 := Civil.daysInYear_le d.year
  have hleft : nat32 ((d.daysInYear : Int) - d.ordinal) = some (d.daysInYear - d.ordinal) := by
    have hvalue : ((d.daysInYear : Int) - d.ordinal).toNat = d.daysInYear - d.ordinal := by omega
    rw [Date.daysInYear] at hlong hvalue ⊢
    rw [nat32_eq (by omega) (by omega), hvalue]
  have hrest : nat32 ((d.daysInYear - d.ordinal : Nat) + 1 : Int) =
      some (d.daysInYear - d.ordinal + 1) := by
    rw [nat32_eq (by omega) (by omega), Int.toNat_natCast_add_one]
  have hnext : addDays d (d.daysInYear - d.ordinal + 1 : Nat) = some (newYear (d.year + 1) h) := by
    refine Date.addDays?_eq_some_iff.2 ?_
    rw [dayNumber_newYear, Date.dayNumber_eq, Civil.daysBeforeYear_add_one, Date.daysInYear]
    omega
  rw [nextYear?, bind_of_eq hleft, bind_of_eq hrest, bind_of_eq hnext]
  rfl

/-- In a year before that of some date there is a next year. -/
theorem next_year_mem (h : d.year < b.year) : -262143 ≤ d.year + 1 ∧ d.year + 1 ≤ 262142 := by
  have hd := d.year_mem
  have hb := b.year_mem
  omega

theorem year_of_nextYear? (hyear : d.year < b.year) (h : nextYear? d = some (n, next)) :
    next.year = d.year + 1 := by
  rw [nextYear?_eq (next_year_mem hyear)] at h
  rw [← (Prod.mk.inj (Option.some.inj h)).2]
  rfl

/-- Adds the shares of the years from `current` to the date `b` to a total. -/
def accrue (b : Date) (total : Decimal) (current : Date) : Option Decimal :=
  if _hyear : current.year < b.year then
    match _h : nextYear? current with
    | none => none
    | some (rest, next) => do
      let share ← Decimal.divide? rest current.daysInYear
      let total ← Decimal.add? total share
      accrue b total next
  else do
    let rest ← daysBetween current b
    let share ← Decimal.divide? rest current.daysInYear
    Decimal.add? total share
termination_by (b.year - current.year).toNat
decreasing_by
  have hnext := year_of_nextYear? _hyear _h
  omega

/-! ## Passes -/

/-- A pass of the loop: the date that it stands at, and the days that it divides by the length of the year. -/
structure Pass where
  start : Date
  days : Int

/-- A pass divides no more days than its year has. -/
def Pass.InYear (p : Pass) : Prop :=
  ∃ n : Nat, p.days = n ∧ n ≤ Civil.daysInYear p.start.year

variable {ps : List Pass}

/-- The loop of `accrue` from a date on, with its passes. -/
inductive Passes (b : Date) : Date → List Pass → Prop where
  | last {current : Date} {rest : Int} : ¬ current.year < b.year →
      daysBetween current b = some rest → Passes b current [⟨current, rest⟩]
  | next {current next : Date} {rest : Nat} {ps : List Pass} : current.year < b.year →
      nextYear? current = some (rest, next) → Passes b next ps →
      Passes b current (⟨current, rest⟩ :: ps)

/-- Adds the share of a pass to a total. -/
def addShare? (total : Decimal) (p : Pass) : Option Decimal := do
  let share ← Decimal.divide? p.days p.start.daysInYear
  Decimal.add? total share

theorem Passes.accrue_eq (h : Passes b a ps) (total : Decimal) :
    accrue b total a = ps.foldlM addShare? total := by
  induction h generalizing total with
  | last hyear hrest =>
    rw [accrue, dif_neg hyear, bind_of_eq hrest]
    simp [addShare?]
  | next hyear hnext _ ih =>
    rw [accrue, dif_pos hyear]
    split
    next hnone =>
      rw [hnext] at hnone
      simp at hnone
    next hsome =>
      rw [hnext] at hsome
      obtain ⟨rfl, rfl⟩ := Prod.mk.inj (Option.some.inj hsome)
      simp [addShare?, ih, Option.bind_assoc]

/-- The loop never leaves the supported years, so it has passes up to the second date. -/
theorem exists_passes (hle : a ≤ b) : ∃ ps, Passes b a ps := by
  induction hyears : (b.year - a.year).toNat generalizing a with
  | zero => exact ⟨_, Passes.last (by omega) (daysBetween_eq a b)⟩
  | succ years ih =>
    have hyear : a.year < b.year := by omega
    obtain ⟨ps, hps⟩ := ih (newYear_le (next_year_mem hyear) hyear) (by rw [year_newYear]; omega)
    exact ⟨_, Passes.next hyear (nextYear?_eq (next_year_mem hyear)) hps⟩

/-- What holds of a single pass in the last year, and of a pass up to the next new year with those after it,
holds of all passes. -/
theorem Passes.induction {motive : Date → List Pass → Prop} (hpasses : Passes b a ps) (hle : a ≤ b)
    (last : ∀ c, c ≤ b → c.year = b.year → motive c [⟨c, c.daysBetween b⟩])
    (next : ∀ c ps (hyear : c.year < b.year), Passes b (newYear (c.year + 1) (next_year_mem hyear)) ps →
      motive (newYear (c.year + 1) (next_year_mem hyear)) ps →
      motive c (⟨c, (Civil.daysInYear c.year : Int) - c.ordinal + 1⟩ :: ps)) : motive a ps := by
  induction hpasses with
  | @last c rest hyear hrest =>
    rw [daysBetween_eq] at hrest
    obtain rfl := Option.some.inj hrest
    have hhigh := Date.year_le_of_le hle
    exact last c hle (by omega)
  | @next c d rest ps hyear hnext htail ih =>
    rw [nextYear?_eq (next_year_mem hyear)] at hnext
    obtain ⟨rfl, rfl⟩ := Prod.mk.inj (Option.some.inj hnext)
    have hordinal := c.ordinal_mem
    have hrest : ((c.daysInYear - c.ordinal + 1 : Nat) : Int) =
        (Civil.daysInYear c.year : Int) - c.ordinal + 1 := by
      rw [Date.daysInYear]
      omega
    rw [hrest]
    exact next c ps hyear htail (ih (newYear_le _ hyear))

/-- The years up to a date in a later year are the rest of the first one and the years from the next one. -/
theorem yearSpans_next (hyear : a.year < b.year) (hnext : next.year = a.year + 1)
    (hordinal : next.ordinal = 1) : DayCount.yearSpans a b =
      (a.year, (Civil.daysInYear a.year : Int) - a.ordinal + 1) :: DayCount.yearSpans next b := by
  rw [DayCount.yearSpans, if_pos hyear, List.cons_append, DayCount.yearSpans, hnext]
  by_cases hlast : a.year + 1 < b.year
  · have hcount : (b.year - a.year - 1).toNat = (b.year - (a.year + 1) - 1).toNat + 1 := by omega
    have hwhole : (Civil.daysInYear (a.year + 1) : Int) - next.ordinal + 1 =
        Civil.daysInYear (a.year + 1) := by
      rw [hordinal]
      omega
    rw [if_pos hlast, hwhole, hcount, DayCount.wholeYears]
  · have hsame : a.year + 1 = b.year := by omega
    have hcount : (b.year - a.year - 1).toNat = 0 := by omega
    have hdays : next.daysBetween b = (b.ordinal : Int) - 1 := by
      rw [Date.daysBetween, Date.dayNumber_eq, Date.dayNumber_eq, hnext, hsame, hordinal]
      omega
    rw [if_neg hlast, hcount, hdays, hsame]
    rfl

/-- The years and their days are those which the year fraction divides. -/
theorem Passes.yearSpans_eq (h : Passes b a ps) (hle : a ≤ b) :
    DayCount.yearSpans a b = ps.map fun p => (p.start.year, p.days) := by
  refine h.induction (motive := fun c ps => DayCount.yearSpans c b = ps.map fun p => (p.start.year, p.days))
    hle (fun c _ hyear => ?_) fun c ps hyear _ ih => ?_
  · rw [DayCount.yearSpans, if_neg (by omega)]
    rfl
  · rw [yearSpans_next hyear (year_newYear (next_year_mem hyear))
      (ordinal_newYear (next_year_mem hyear)), ih]
    rfl

/-- In the year of both dates there are no more days between them than it has. -/
theorem exists_daysBetween (hle : a ≤ b) (hyear : a.year = b.year) :
    ∃ n : Nat, a.daysBetween b = n ∧ n ≤ Civil.daysInYear a.year := by
  have ha := a.ordinal_mem
  have hb := b.ordinal_mem
  have hpos : 0 ≤ a.daysBetween b := Int.sub_nonneg.2 (Date.dayNumber_le_iff.2 hle)
  obtain ⟨n, hn⟩ := Int.eq_ofNat_of_zero_le hpos
  refine ⟨n, hn, ?_⟩
  rw [Date.daysBetween, Date.dayNumber_eq, Date.dayNumber_eq, hyear] at hn
  rw [hyear]
  omega

/-- What is left of a year, its first day included, is no more than the days that it has. -/
theorem exists_rest (a : Date) :
    ∃ n : Nat, (Civil.daysInYear a.year : Int) - a.ordinal + 1 = n ∧ n ≤ Civil.daysInYear a.year := by
  have hordinal := a.ordinal_mem
  refine ⟨Civil.daysInYear a.year - a.ordinal + 1, ?_, ?_⟩ <;> omega

theorem Passes.inYear (h : Passes b a ps) (hle : a ≤ b) : ∀ p ∈ ps, p.InYear := by
  refine h.induction (motive := fun _ ps => ∀ p ∈ ps, p.InYear) hle (fun c hcb hyear => ?_)
    fun c ps _ _ ih => ?_
  · rw [List.forall_mem_singleton]
    exact exists_daysBetween hcb hyear
  · rw [List.forall_mem_cons]
    exact ⟨exists_rest c, ih⟩

theorem Passes.length_eq (h : Passes b a ps) (hle : a ≤ b) : ps.length = (b.year - a.year).toNat + 1 := by
  refine h.induction (motive := fun c ps => ps.length = (b.year - c.year).toNat + 1) hle
    (fun c _ hyear => ?_) fun c ps hyear _ ih => ?_
  · rw [hyear, Int.sub_self]
    rfl
  · rw [List.length_cons, ih, year_newYear]
    omega

/-! ## Totals -/

/-- The share of a number of days that a year has. -/
theorem divide?_daysInYear {n : Nat} (hn : n ≤ d.daysInYear) :
    Decimal.divide? n d.daysInYear = some (Decimal.divide n d.daysInYear) ∧
      Decimal.AtMost 1 (Decimal.divide n d.daysInYear) := by
  have hlow : 365 ≤ d.daysInYear := Civil.le_daysInYear d.year
  have hhigh : d.daysInYear ≤ 366 := Civil.daysInYear_le d.year
  refine ⟨Decimal.divide?_eq (by omega) ?_, Decimal.atMost_divide (by omega) (by omega)⟩
  rw [Int.natAbs_natCast, Decimal.maxCoefficient]
  omega

/-- Adds the rounded shares of the passes to a total in order. -/
def addShares (total : Decimal) (ps : List Pass) : Decimal :=
  ps.foldl (fun total p => DayCount.addShare total (p.start.year, p.days)) total

/-- The shares of passes are added up without overflow. -/
theorem foldlM_addShare? {total : Decimal} {k : Nat} (hps : ∀ p ∈ ps, p.InYear)
    (htotal : Decimal.AtMost k total) (hk : k + ps.length ≤ Decimal.maxCoefficient) :
    ps.foldlM addShare? total = some (addShares total ps) := by
  -- Over the passes; the bound grows by one in each.
  induction ps generalizing total k with
  | nil => rfl
  | cons p ps ih =>
    rw [List.forall_mem_cons] at hps
    rw [List.length_cons] at hk
    obtain ⟨⟨n, hn, hwithin⟩, htail⟩ := hps
    obtain ⟨hshare, hone⟩ := divide?_daysInYear hwithin
    have hsum := Decimal.add?_eq htotal hone (by omega)
    have hadd : addShare? total p = some (total + Decimal.divide n p.start.daysInYear) := by
      rw [addShare?, hn, bind_of_eq hshare, hsum]
    rw [List.foldlM_cons, bind_of_eq hadd, ih htail (htotal.add hone) (by omega), addShares, addShares,
      List.foldl_cons, DayCount.addShare, hn]
    rfl

/-- The loop adds up the shares of the years. -/
theorem accrue_eq {total : Decimal} {k : Nat} (hle : a ≤ b) (htotal : Decimal.AtMost k total)
    (hk : k + (b.year - a.year).toNat + 1 ≤ Decimal.maxCoefficient) :
    accrue b total a = some ((DayCount.yearSpans a b).foldl DayCount.addShare total) := by
  obtain ⟨ps, hps⟩ := exists_passes hle
  have hlength := hps.length_eq hle
  rw [hps.accrue_eq, foldlM_addShare? (hps.inYear hle) htotal (by omega), hps.yearSpans_eq hle,
    List.foldl_map]
  rfl

/-! ## Year fractions -/

def yearFraction (c : DayCount) (a b : Date) : Option Decimal :=
  match c with
  | .actual360 | .thirty360US | .thirty360European => do
    let n ← days c a b
    Decimal.divide? n 360
  | .actual365Fixed => do
    let n ← days c a b
    Decimal.divide? n 365
  | .actualActual => if a.lt b then accrue b Decimal.zero a else some Decimal.zero

/-- Counts of days are small next to decimals. -/
theorem natAbs_days_le (c : DayCount) (a b : Date) : (c.days a b).natAbs ≤ Decimal.maxCoefficient := by
  have hmax : 10 ^ 9 ≤ Decimal.maxCoefficient := by decide
  refine Nat.le_trans ?_ hmax
  have hactual : (a.daysBetween b).natAbs ≤ 10 ^ 9 := by
    have ha := dayNumber_mem a
    have hb := dayNumber_mem b
    rw [Date.daysBetween]
    omega
  have hthirty : ∀ aDay bDay, aDay ≤ 31 → bDay ≤ 31 →
      (DayCount.thirtyDayMonths a b aDay bDay).natAbs ≤ 10 ^ 9 := by
    intro aDay bDay haDay hbDay
    have ha := a.year_mem
    have hb := b.year_mem
    have hstart := a.month_mem
    have hstop := b.month_mem
    rw [DayCount.thirtyDayMonths]
    omega
  cases c with
  | actual360 => exact hactual
  | actual365Fixed => exact hactual
  | actualActual => exact hactual
  | thirty360US => exact hthirty _ _ (startDayUS_le a) (endDayUS_le a b)
  | thirty360European => exact hthirty _ _ (by omega) (by omega)

theorem divide?_days (c : DayCount) (a b : Date) {d : Nat} (hd : 0 < d) :
    (do let n ← days c a b; Decimal.divide? n d) = some (Decimal.divide (c.days a b) d) := by
  rw [bind_of_eq (days_eq c a b), Decimal.divide?_eq hd (natAbs_days_le c a b)]

theorem yearFraction_eq (c : DayCount) (a b : Date) :
    yearFraction c a b = some (c.yearFraction a b) := by
  cases c with
  | actual360 => exact divide?_days .actual360 a b (by decide)
  | actual365Fixed => exact divide?_days .actual365Fixed a b (by decide)
  | thirty360US => exact divide?_days .thirty360US a b (by decide)
  | thirty360European => exact divide?_days .thirty360European a b (by decide)
  | actualActual =>
    rw [yearFraction, DayCount.yearFraction]
    by_cases hlt : a.lt b = true
    · rw [if_pos hlt, if_pos hlt]
      refine accrue_eq (le_of_lt (show a < b from hlt)) Decimal.atMost_zero ?_
      have ha := a.year_mem
      have hb := b.year_mem
      rw [Decimal.maxCoefficient]
      omega
    · rw [if_neg hlt, if_neg hlt]

end TermStructure.Words
