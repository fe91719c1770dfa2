import Mathlib.Data.Int.Interval
import Mathlib.Data.Set.Card
import TermStructure.Proofs.DayCount.Words

/-!
# The years that actual/actual passes

The loop of actual/actual stands at the first date and then at the first day of each later year. Every pass
divides the days that its year has between the two dates, so no day is divided twice or left out
(`Words.YearByYear`).
-/

namespace TermStructure

/-! ## Days of a year -/

namespace Date

variable {a b d : Date}

/-- The days of a calendar year that are no earlier than `a` and before `b`. -/
noncomputable def daysWithin (a b : Date) (year : Int) : Nat :=
  Set.ncard {d : Date | a ≤ d ∧ d < b ∧ d.year = year}

theorem ncard_Ico (a b : Date) : (Set.Ico a b).ncard = (b.dayNumber - a.dayNumber).toNat := by
  have hinjective : Function.Injective dayNumber := fun x y h => dayNumber_inj.1 h
  have himage : dayNumber '' Set.Ico a b = Set.Ico a.dayNumber b.dayNumber := by
    ext n
    constructor
    · rintro ⟨d, ⟨had, hdb⟩, rfl⟩
      exact ⟨dayNumber_le_iff.2 had, dayNumber_lt_iff.2 hdb⟩
    · rintro ⟨han, hnb⟩
      obtain ⟨d, -, rfl⟩ := exists_dayNumber han hnb.le
      exact ⟨d, ⟨dayNumber_le_iff.1 han, dayNumber_lt_iff.1 hnb⟩, rfl⟩
  rw [← Set.ncard_image_of_injective _ hinjective, himage, ← Finset.coe_Ico, Set.ncard_coe_finset,
    Int.card_Ico]

end Date

namespace Words

variable {a b c d : Date} {ps : List Pass} {year : Int}

theorem lt_newYear_iff (h : -262143 ≤ year ∧ year ≤ 262142) : d < newYear year h ↔ d.year < year := by
  constructor
  · intro hlt
    by_contra hyear
    exact hlt.not_ge (newYear_le h (Int.not_lt.1 hyear))
  · intro hyear
    exact Date.lt_iff.2 (Or.inl hyear)

/-- In the year of both dates all days between them count. -/
theorem daysWithin_last (hyear : a.year = b.year) :
    a.daysWithin b a.year = (a.daysBetween b).toNat := by
  have hset : {d : Date | a ≤ d ∧ d < b ∧ d.year = a.year} = Set.Ico a b := by
    ext d
    refine ⟨fun ⟨had, hdb, _⟩ => ⟨had, hdb⟩, fun ⟨had, hdb⟩ => ⟨had, hdb, ?_⟩⟩
    have hlow := Date.year_le_of_le had
    have hhigh := Date.year_le_of_le hdb.le
    omega
  rw [Date.daysWithin, hset, Date.ncard_Ico, Date.daysBetween]

/-- In the first year the rest of its days count. -/
theorem daysWithin_first (hyear : a.year < b.year) :
    (a.daysWithin b a.year : Int) = (Civil.daysInYear a.year : Int) - a.ordinal + 1 := by
  have hnew := next_year_mem hyear
  have hset : {d : Date | a ≤ d ∧ d < b ∧ d.year = a.year} = Set.Ico a (newYear (a.year + 1) hnew) := by
    ext d
    constructor
    · rintro ⟨had, -, hd⟩
      exact ⟨had, (lt_newYear_iff hnew).2 (by omega)⟩
    · rintro ⟨had, hd⟩
      have hlow := Date.year_le_of_le had
      have hhigh := (lt_newYear_iff hnew).1 hd
      exact ⟨had, Date.lt_iff.2 (Or.inl (by omega)), by omega⟩
  have hordinal := a.ordinal_mem
  rw [Date.daysWithin, hset, Date.ncard_Ico, dayNumber_newYear, Date.dayNumber_eq,
    Civil.daysBeforeYear_add_one]
  omega

/-- In later years it does not matter whether days count from the first date or from the next new year. -/
theorem daysWithin_later (hyear : a.year < b.year) (hlater : a.year < year) :
    (newYear (a.year + 1) (next_year_mem hyear)).daysWithin b year = a.daysWithin b year := by
  have hset : ∀ d : Date, d.year = year → (newYear (a.year + 1) (next_year_mem hyear) ≤ d ↔ a ≤ d) := by
    intro d hd
    have had : a ≤ d := (Date.lt_iff.2 (Or.inl (by omega))).le
    exact ⟨fun _ => had, fun _ => newYear_le _ (by omega)⟩
  unfold Date.daysWithin
  congr 1
  ext d
  exact ⟨fun ⟨h, hdb, hd⟩ => ⟨(hset d hd).1 h, hdb, hd⟩, fun ⟨h, hdb, hd⟩ => ⟨(hset d hd).2 h, hdb, hd⟩⟩

/-! ## Year by year -/

/-- The passes stand at the first date and at each later new year up to the year of the second date, once in
each year, and the days that they divide are those of their years between the dates. -/
structure YearByYear (a b : Date) (ps : List Pass) : Prop where
  years : ps.map (·.start.year) =
    (List.range ((b.year - a.year).toNat + 1)).map fun k : Nat => a.year + (k : Int)
  first : ps.head?.map Pass.start = some a
  january : ∀ p ∈ ps.tail, p.start.month = 1 ∧ p.start.day = 1
  days : ∀ p ∈ ps, p.days = a.daysWithin b p.start.year
  sum_days : (ps.map Pass.days).sum = a.daysBetween b

theorem yearByYear_last (hle : c ≤ b) (hyear : c.year = b.year) :
    YearByYear c b [⟨c, c.daysBetween b⟩] where
  years := by
    have hzero : (b.year - c.year).toNat = 0 := by omega
    simp [hzero]
  first := rfl
  january := by simp
  days p hp := by
    obtain rfl := List.mem_singleton.1 hp
    have hpos : 0 ≤ c.daysBetween b := Int.sub_nonneg.2 (Date.dayNumber_le_iff.2 hle)
    rw [daysWithin_last hyear, Int.toNat_of_nonneg hpos]
  sum_days := by simp

theorem YearByYear.year_le (h : YearByYear a b ps) {p : Pass} (hp : p ∈ ps) : a.year ≤ p.start.year := by
  have hmem : p.start.year ∈ ps.map (·.start.year) := List.mem_map_of_mem hp
  rw [h.years] at hmem
  obtain ⟨k, -, hk⟩ := List.mem_map.1 hmem
  omega

theorem YearByYear.next (hyear : c.year < b.year)
    (h : YearByYear (newYear (c.year + 1) (next_year_mem hyear)) b ps) :
    YearByYear c b (⟨c, (Civil.daysInYear c.year : Int) - c.ordinal + 1⟩ :: ps) where
  years := by
    have hcount : (b.year - c.year).toNat = (b.year - (c.year + 1)).toNat + 1 := by omega
    have hshift : ∀ k : Nat, c.year + 1 + (k : Int) = c.year + ((k + 1 : Nat) : Int) := fun k => by omega
    rw [List.map_cons, h.years, year_newYear, hcount]
    conv_rhs => rw [List.range_succ_eq_map, List.map_cons, List.map_map]
    simp only [hshift, Function.comp_def, Nat.succ_eq_add_one, Nat.cast_zero, Int.add_zero]
  first := rfl
  january p hp := by
    cases ps with
    | nil => simp at hp
    | cons q ps =>
      have hq : q.start = newYear (c.year + 1) (next_year_mem hyear) := by simpa using h.first
      rcases List.mem_cons.1 hp with rfl | hp
      · rw [hq]
        exact ⟨rfl, rfl⟩
      · exact h.january p hp
  days p hp := by
    rcases List.mem_cons.1 hp with rfl | hp
    · exact (daysWithin_first hyear).symm
    · have hlater : c.year + 1 ≤ p.start.year := h.year_le hp
      rw [h.days p hp, daysWithin_later hyear (by omega)]
  sum_days := by
    rw [List.map_cons, List.sum_cons, h.sum_days, Date.daysBetween, Date.daysBetween, dayNumber_newYear,
      Date.dayNumber_eq c, Civil.daysBeforeYear_add_one]
    simp only
    omega

theorem Passes.yearByYear (h : Passes b a ps) (hle : a ≤ b) : YearByYear a b ps :=
  h.induction hle (fun _ => yearByYear_last) fun _ _ hyear _ => YearByYear.next hyear

end Words

end TermStructure
