import Mathlib.Data.Int.ConditionallyCompleteOrder
import TermStructure.Proofs.DayCount.Passes
import TermStructure.Proofs.Number.Rounding

/-!
# The accuracy of actual/actual

The exact fraction adds up the days of each calendar year over its length. It is the way between the dates on
an axis on which every year has length one (`Words.exactFraction_eq`), so it grows by at least 1/366 a day.

The decimal is off by less than the 22nd place, however many years are passed. A total below 600000 has room
for 23 places (`Words.room_for_places`). The first share is rounded once. From the first new year on all passes
but the last one add exactly one, and so the total stays near to its exact value (`Decimal.Near.add_one`); the
last share brings one more rounding (`Words.Passes.addShares_near`). Two units of the 23rd place are less than
half a day in a leap year, so the decimals grow with the second date as well.
-/

namespace TermStructure

/-! ## Exact fractions -/

namespace Date

variable {a b d : Date}

/-- The days of each calendar year between two dates over the length of the year, added up. -/
noncomputable def exactFraction (a b : Date) : ℚ :=
  ∑ year ∈ Finset.Icc a.year b.year, (a.daysWithin b year : ℚ) / Civil.daysInYear year

/-- The place of a date on an axis on which every calendar year has length one. -/
def axisPlace (d : Date) : ℚ :=
  d.year + ((d.ordinal : ℚ) - 1) / Civil.daysInYear d.year

theorem daysInYear_pos (year : Int) : (0 : ℚ) < Civil.daysInYear year :=
  Nat.cast_pos.2 (Civil.daysInYear_pos year)

theorem axisPlace_newYear {year : Int} (h : -262143 ≤ year ∧ year ≤ 262142) :
    (Words.newYear year h).axisPlace = year := by
  rw [axisPlace, Words.year_newYear, Words.ordinal_newYear, Nat.cast_one, sub_self, zero_div, add_zero]

/-- A year of days has passed before the next year begins. -/
theorem axisPlace_mem (d : Date) :
    d.year ≤ d.axisPlace ∧ d.axisPlace + 1 / Civil.daysInYear d.year ≤ d.year + 1 := by
  have hlong := daysInYear_pos d.year
  have hfirst : (1 : ℚ) ≤ d.ordinal := Nat.one_le_cast.2 d.ordinal_mem.1
  have hlast : (d.ordinal : ℚ) ≤ Civil.daysInYear d.year := Nat.cast_le.2 d.ordinal_mem.2
  rw [axisPlace]
  constructor
  · exact le_add_of_nonneg_right (div_nonneg (sub_nonneg.2 hfirst) hlong.le)
  · rw [add_assoc, ← add_div, sub_add_cancel, add_le_add_iff_left]
    exact (div_le_one hlong).2 hlast

/-- From one day to a later one the place moves on by at least the share of one day in a leap year. -/
theorem axisPlace_add_le (h : a < b) : a.axisPlace + 1 / 366 ≤ b.axisPlace := by
  have hlong := daysInYear_pos a.year
  have hday : (1 / 366 : ℚ) ≤ 1 / Civil.daysInYear a.year :=
    one_div_le_one_div_of_le hlong (Nat.cast_le.2 (Civil.daysInYear_le a.year))
  rcases (year_le_of_le h.le).lt_or_eq with hyear | hyear
  · have hnext : (a.year : ℚ) + 1 ≤ b.year := by exact_mod_cast hyear
    have ha := a.axisPlace_mem.2
    have hb := b.axisPlace_mem.1
    linarith
  · have hnumber := dayNumber_lt_iff.2 h
    rw [dayNumber_eq, dayNumber_eq, hyear] at hnumber
    have hordinal : (a.ordinal : ℚ) + 1 ≤ b.ordinal := by exact_mod_cast Int.lt_of_add_lt_add_left hnumber
    have hshare : ((a.ordinal : ℚ) - 1) / Civil.daysInYear a.year + 1 / Civil.daysInYear a.year ≤
        ((b.ordinal : ℚ) - 1) / Civil.daysInYear a.year := by
      rw [← add_div]
      exact div_le_div_of_nonneg_right (by linarith) hlong.le
    rw [axisPlace, axisPlace, ← hyear]
    linarith

end Date

namespace Words

variable {a b c d : Date} {ps : List Pass}

/-- The share of a pass before it is rounded. -/
def Pass.exact (p : Pass) : ℚ :=
  p.days / Civil.daysInYear p.start.year

/-- In one year the way on the axis is the share of the days. -/
theorem exact_last (hyear : c.year = b.year) :
    Pass.exact ⟨c, c.daysBetween b⟩ = b.axisPlace - c.axisPlace := by
  have hdays : ((c.daysBetween b : Int) : ℚ) = ((b.ordinal : ℚ) - 1) - (c.ordinal - 1) := by
    rw [Date.daysBetween, Date.dayNumber_eq, Date.dayNumber_eq, hyear]
    push_cast
    ring
  rw [Pass.exact, hdays, sub_div, Date.axisPlace, Date.axisPlace, hyear, add_sub_add_left_eq_sub]

/-- The share of the rest of a year is the way to the next one. -/
theorem exact_next (hyear : c.year < b.year) :
    Pass.exact ⟨c, (Civil.daysInYear c.year : Int) - c.ordinal + 1⟩ =
      (newYear (c.year + 1) (next_year_mem hyear)).axisPlace - c.axisPlace := by
  have hwhole : (Civil.daysInYear c.year : ℚ) - c.ordinal + 1 + (c.ordinal - 1) = Civil.daysInYear c.year := by
    ring
  rw [Date.axisPlace_newYear, Pass.exact, Date.axisPlace]
  push_cast
  rw [add_sub_add_left_eq_sub, eq_sub_iff_add_eq, ← add_div, hwhole,
    div_self (Date.daysInYear_pos c.year).ne']

/-- The shares of all passes add up to the way between the dates. -/
theorem Passes.sum_exact (h : Passes b a ps) (hle : a ≤ b) :
    (ps.map Pass.exact).sum = b.axisPlace - a.axisPlace := by
  refine h.induction (motive := fun c ps => (ps.map Pass.exact).sum = b.axisPlace - c.axisPlace) hle
    (fun c _ hyear => ?_) fun c ps hyear _ ih => ?_
  · rw [List.map_singleton, List.sum_singleton, exact_last hyear]
  · rw [List.map_cons, List.sum_cons, ih, exact_next hyear]
    ring

/-- They are the shares of the calendar years. -/
theorem YearByYear.sum_exact (h : YearByYear a b ps) (hle : a ≤ b) :
    (ps.map Pass.exact).sum = a.exactFraction b := by
  have hyear := Date.year_le_of_le hle
  have hcount : (b.year + 1 - a.year).toNat = (b.year - a.year).toNat + 1 := by omega
  have hdays : ps.map Pass.exact =
      (ps.map (·.start.year)).map fun year => (a.daysWithin b year : ℚ) / Civil.daysInYear year := by
    rw [List.map_map]
    refine List.map_congr_left fun p hp => ?_
    rw [Pass.exact, h.days p hp, Int.cast_natCast]
    rfl
  rw [hdays, h.years, List.map_map, Date.exactFraction, Int.Icc_eq_finset_map, Finset.sum_map, hcount]
  rfl

theorem exactFraction_eq (hle : a ≤ b) : a.exactFraction b = b.axisPlace - a.axisPlace := by
  obtain ⟨ps, hps⟩ := exists_passes hle
  rw [← (hps.yearByYear hle).sum_exact hle, hps.sum_exact hle]

/-! ## Decimals -/

theorem Passes.yearFraction_eq (h : Passes b a ps) (hlt : a < b) :
    DayCount.yearFraction .actualActual a b = addShares Decimal.zero ps := by
  rw [DayCount.yearFraction, if_pos (show a.lt b = true from hlt), h.yearSpans_eq hlt.le, List.foldl_map]
  rfl

theorem yearFraction_self (a : Date) : DayCount.yearFraction .actualActual a a = Decimal.zero := by
  rw [DayCount.yearFraction, if_neg (show ¬ a.lt a = true from lt_irrefl a)]

theorem exact_natCast (c : Date) (n : Nat) : Pass.exact ⟨c, n⟩ = n / Civil.daysInYear c.year := by
  rw [Pass.exact, Int.cast_natCast]

theorem room_for_places {k : Nat} (hk : k ≤ 600000) : k * 10 ^ 23 ≤ Decimal.maxCoefficient := by
  calc k * 10 ^ 23 ≤ 600000 * 10 ^ 23 := Nat.mul_le_mul_right _ hk
    _ ≤ Decimal.maxCoefficient := by decide

/-- The last share is rounded once more, and so is the total with it. -/
theorem addShare_near {total : Decimal} {v : ℚ} {k n : Nat} (hn : n ≤ Civil.daysInYear c.year)
    (htotal : Decimal.Near 23 total v) (hk : Decimal.AtMost k total) (hroom : k + 1 ≤ 600000) :
    |(DayCount.addShare total (c.year, n)).value - (v + n / Civil.daysInYear c.year)| ≤
      2 * Decimal.place 23 := by
  have hone := (divide?_daysInYear hn).2
  have hrounded := (Decimal.divide_near (Civil.daysInYear_pos c.year) hn).1
  exact htotal.abs_add_sub_le hk hone (room_for_places hroom) (by decide) hrounded

/-- A full year adds one. -/
theorem addShare_newYear (total : Decimal) (hordinal : c.ordinal = 1) :
    DayCount.addShare total (c.year, (Civil.daysInYear c.year : Int) - c.ordinal + 1) =
      total + Decimal.ofInt 1 := by
  have hdays : (Civil.daysInYear c.year : Int) - c.ordinal + 1 = (1 * Civil.daysInYear c.year : Nat) := by
    rw [hordinal]
    omega
  rw [DayCount.addShare, hdays, Decimal.divide_mul 1 (Civil.daysInYear_pos c.year)]
  rfl

/-- From a new year on the passes but the last one add one each. -/
theorem Passes.addShares_near (h : Passes b a ps) (hle : a ≤ b) (hordinal : a.ordinal = 1) {total : Decimal}
    {v : ℚ} {k : Nat} (htotal : Decimal.Near 23 total v) (hk : Decimal.AtMost k total)
    (hroom : k + ps.length ≤ 600000) :
    |(addShares total ps).value - (v + (ps.map Pass.exact).sum)| ≤ 2 * Decimal.place 23 := by
  -- Over the passes that are left, for every total that is near to its value.
  refine h.induction (motive := fun c ps => c.ordinal = 1 → ∀ (total : Decimal) (v : ℚ) (k : Nat),
    Decimal.Near 23 total v → Decimal.AtMost k total → k + ps.length ≤ 600000 →
      |(addShares total ps).value - (v + (ps.map Pass.exact).sum)| ≤ 2 * Decimal.place 23)
    hle ?_ ?_ hordinal total v k htotal hk hroom
  · intro c hcb hyear _ total v k htotal hk hroom
    obtain ⟨n, hn, hwithin⟩ := exists_daysBetween hcb hyear
    rw [hn, List.map_singleton, List.sum_singleton, exact_natCast]
    exact addShare_near hwithin htotal hk hroom
  · intro c ps hyear _ ih hordinal total v k htotal hk hroom
    have hone : Decimal.AtMost 1 (Decimal.ofInt 1) := ⟨1, rfl, Nat.le_refl 1⟩
    have hexact : Pass.exact ⟨c, (Civil.daysInYear c.year : Int) - c.ordinal + 1⟩ = 1 := by
      rw [Pass.exact, hordinal, Nat.cast_one, sub_add_cancel, Int.cast_natCast,
        div_self (Date.daysInYear_pos c.year).ne']
    rw [List.length_cons] at hroom
    rw [addShares, List.foldl_cons, addShare_newYear total hordinal, List.map_cons, List.sum_cons, hexact,
      ← add_assoc]
    exact ih rfl _ _ (k + 1) (htotal.add_one hk (room_for_places (by omega))) (hk.add hone) (by omega)

/-- The first share is the total up to the next new year. -/
theorem Passes.yearFraction_near (h : Passes b a ps) (hle : a ≤ b) :
    |(addShares Decimal.zero ps).value - (ps.map Pass.exact).sum| ≤ 2 * Decimal.place 23 := by
  have hlength : ps.length ≤ 524286 := by
    have ha := a.year_mem
    have hb := b.year_mem
    rw [h.length_eq hle]
    omega
  refine h.induction (motive := fun _ ps => ps.length ≤ 524286 →
    |(addShares Decimal.zero ps).value - (ps.map Pass.exact).sum| ≤ 2 * Decimal.place 23) hle ?_ ?_ hlength
  · intro c hcb hyear _
    obtain ⟨n, hn, hwithin⟩ := exists_daysBetween hcb hyear
    have hnear := addShare_near hwithin (Decimal.near_zero 23) Decimal.atMost_zero (by decide)
    rw [zero_add] at hnear
    rw [hn, List.map_singleton, List.sum_singleton, exact_natCast]
    exact hnear
  · intro c ps hyear htail _ hlength
    obtain ⟨n, hn, hwithin⟩ := exists_rest c
    have hone := (divide?_daysInYear hwithin).2
    have hshare : Decimal.Near 23 (Decimal.divide n (Civil.daysInYear c.year))
        (n / Civil.daysInYear c.year) :=
      Decimal.near_divide (Civil.daysInYear_pos c.year) hwithin (by decide)
    rw [List.length_cons] at hlength
    rw [addShares, List.foldl_cons, DayCount.addShare, hn, Decimal.zero_add, List.map_cons, List.sum_cons,
      exact_natCast]
    exact htail.addShares_near (newYear_le _ hyear) rfl hshare hone (by omega)

/-- The year fraction of two dates is off by less than the 22nd place. -/
theorem abs_yearFraction_sub_lt (hle : a ≤ b) :
    |(DayCount.yearFraction .actualActual a b).value - a.exactFraction b| < Decimal.place 22 := by
  have hplace := Decimal.place_pos 23
  have hten := Decimal.place_succ 22
  rcases hle.lt_or_eq with hlt | rfl
  · obtain ⟨ps, hps⟩ := exists_passes hle
    have hnear := hps.yearFraction_near hle
    rw [(hps.yearByYear hle).sum_exact hle] at hnear
    rw [hps.yearFraction_eq hlt]
    linarith
  · rw [yearFraction_self, exactFraction_eq hle, sub_self, sub_zero, Decimal.value_zero, abs_zero]
    exact Decimal.place_pos 22

/-- A day is worth more than both errors. -/
theorem yearFraction_lt (hle : a ≤ b) (hlt : b < c) :
    (DayCount.yearFraction .actualActual a b).value < (DayCount.yearFraction .actualActual a c).value := by
  have hleft := abs_lt.1 (abs_yearFraction_sub_lt hle)
  have hright := abs_lt.1 (abs_yearFraction_sub_lt (hle.trans hlt.le))
  have hday := Date.axisPlace_add_le hlt
  have hsmall : 2 * Decimal.place 22 < 1 / 366 := by
    rw [Decimal.place]
    norm_num
  rw [exactFraction_eq hle] at hleft
  rw [exactFraction_eq (hle.trans hlt.le)] at hright
  linarith

/-! ## New years -/

/-- From a new year to a later one all shares are whole. -/
theorem Passes.addShares_newYear (h : Passes b a ps) (hle : a ≤ b) (ha : a.ordinal = 1) (hb : b.ordinal = 1)
    (k : Int) : addShares (Decimal.ofInt k) ps = Decimal.ofInt (k + (b.year - a.year)) := by
  refine h.induction (motive := fun c ps => c.ordinal = 1 → ∀ k : Int,
    addShares (Decimal.ofInt k) ps = Decimal.ofInt (k + (b.year - c.year))) hle ?_ ?_ ha k
  · intro c _ hyear hordinal k
    have hdays : c.daysBetween b = (0 * Civil.daysInYear c.year : Nat) := by
      rw [Date.daysBetween, Date.dayNumber_eq, Date.dayNumber_eq, hyear, hordinal, hb]
      omega
    rw [addShares, List.foldl_cons, List.foldl_nil, DayCount.addShare, hdays,
      Decimal.divide_mul 0 (Civil.daysInYear_pos c.year), Decimal.ofInt_add_ofInt, hyear, Int.sub_self]
    rfl
  · intro c ps hyear _ ih hordinal k
    have hk : k + 1 + (b.year - (c.year + 1)) = k + (b.year - c.year) := by omega
    rw [addShares, List.foldl_cons, addShare_newYear _ hordinal, Decimal.ofInt_add_ofInt]
    exact (ih rfl (k + 1)).trans (congrArg _ hk)

theorem yearFraction_newYear (hle : a ≤ b) (ha : a.ordinal = 1) (hb : b.ordinal = 1) :
    DayCount.yearFraction .actualActual a b = Decimal.ofInt (b.year - a.year) := by
  rcases hle.lt_or_eq with hlt | rfl
  · obtain ⟨ps, hps⟩ := exists_passes hle
    rw [hps.yearFraction_eq hlt]
    exact (hps.addShares_newYear hle ha hb 0).trans (congrArg _ (Int.zero_add _))
  · rw [yearFraction_self, Int.sub_self]
    rfl

/-- Actual/actual passes each calendar year from that of the first date to that of the second one once. It
stands at the first of January in all but the first, and divides the days that lie between the dates. No move
to a new year, quotient or sum leaves what is supported. The decimal is off from the exact fraction by less
than the 22nd place; it grows with the second date, and from one first of January to another it is the number
of years. -/
theorem actualActual_accurate :
    (∀ a b : Date, a < b → ∃ ps : List Pass, Passes b a ps ∧ YearByYear a b ps ∧
      yearFraction .actualActual a b = ps.foldlM addShare? Decimal.zero ∧
      yearFraction .actualActual a b = some (DayCount.yearFraction .actualActual a b) ∧
      |(DayCount.yearFraction .actualActual a b).value - a.exactFraction b| < Decimal.place 22) ∧
    (∀ a b c : Date, a ≤ b → b < c →
      (DayCount.yearFraction .actualActual a b).value < (DayCount.yearFraction .actualActual a c).value) ∧
    ∀ a b : Date, a ≤ b → a.month = 1 ∧ a.day = 1 → b.month = 1 ∧ b.day = 1 →
      DayCount.yearFraction .actualActual a b = Decimal.ofInt (b.year - a.year) := by
  have hordinal : ∀ d : Date, d.month = 1 ∧ d.day = 1 → d.ordinal = 1 := by
    rintro d ⟨hmonth, hday⟩
    rw [Date.ordinal, hmonth, hday]
    rfl
  refine ⟨fun a b hlt => ?_, fun a b c => yearFraction_lt, fun a b hle ha hb =>
    yearFraction_newYear hle (hordinal a ha) (hordinal b hb)⟩
  obtain ⟨ps, hps⟩ := exists_passes hlt.le
  refine ⟨ps, hps, hps.yearByYear hlt.le, ?_, yearFraction_eq .actualActual a b,
    abs_yearFraction_sub_lt hlt.le⟩
  rw [← hps.accrue_eq, yearFraction, if_pos (show a.lt b = true from hlt)]

/-- From July 2023 to July 2024, with a leap day between, and over the two years from January 2023 on. -/
theorem actualActual_accurate_leapYear : ∃ a b c d : Date,
    Date.ofYmd? 2023 7 1 = some a ∧ Date.ofYmd? 2024 7 1 = some b ∧ Date.ofYmd? 2023 1 1 = some c ∧
    Date.ofYmd? 2025 1 1 = some d ∧ a < b ∧ b < d ∧ c ≤ d ∧
    (∃ ps : List Pass, ps.map (·.start.year) = [2023, 2024] ∧ (ps.map Pass.days).sum = 366 ∧
      |(DayCount.yearFraction .actualActual a b).value - a.exactFraction b| < Decimal.place 22) ∧
    (DayCount.yearFraction .actualActual a b).value < (DayCount.yearFraction .actualActual a d).value ∧
    DayCount.yearFraction .actualActual c d = Decimal.ofInt 2 := by
  have hab : (⟨2023, 7, 1, by decide, by decide, by decide⟩ : Date) <
      ⟨2024, 7, 1, by decide, by decide, by decide⟩ := by decide
  have hbd : (⟨2024, 7, 1, by decide, by decide, by decide⟩ : Date) <
      ⟨2025, 1, 1, by decide, by decide, by decide⟩ := by decide
  have hcd : (⟨2023, 1, 1, by decide, by decide, by decide⟩ : Date) ≤
      ⟨2025, 1, 1, by decide, by decide, by decide⟩ := by decide
  obtain ⟨hpasses, hgrows, hwhole⟩ := actualActual_accurate
  obtain ⟨ps, -, hyears, -, -, hnear⟩ := hpasses _ _ hab
  exact ⟨_, _, _, _, rfl, rfl, rfl, rfl, hab, hbd, hcd, ⟨ps, hyears.years, hyears.sum_days, hnear⟩,
    hgrows _ _ _ hab.le hbd, hwhole _ _ hcd ⟨rfl, rfl⟩ ⟨rfl, rfl⟩⟩

end Words

end TermStructure
