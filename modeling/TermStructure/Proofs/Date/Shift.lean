import TermStructure.Date.Shift
import TermStructure.Proofs.Date.Order

/-!
# Moved dates

Days and weeks add to the number of a date, months and years to the index of its month: every move succeeds
if its date exists, and leads there (`Date.addMonths_eq_ok_iff`, `Date.addTenor_eq_ok_iff_of_isDays`,
`Date.addTenor_eq_ok_iff_of_isMonths`). So within one of the two kinds of units a longer tenor leads to no
earlier date (`Date.addTenor_mono`). The only errors of moves are those of dates.
-/

namespace TermStructure

namespace TenorUnit

/-- Whether the unit is one of whole days. -/
def IsDays (u : TenorUnit) : Prop :=
  u = days ∨ u = weeks

/-- Whether the unit is one of whole months. -/
def IsMonths (u : TenorUnit) : Prop :=
  u = months ∨ u = years

end TenorUnit

namespace Date

variable {d r s : Date} {n : Int} {t u : Tenor} {v : ValueError}

theorem addDays?_eq_some_iff : d.addDays? n = some r ↔ r.dayNumber = d.dayNumber + n :=
  ofDayNumber?_eq_some_iff

/-! ## Months in order -/

/-- A date of a later month is later, wherever in their months the dates stand. -/
theorem lt_of_monthIndex_lt (h : r.monthIndex < s.monthIndex) : r < s := by
  have hr := r.month_mem
  have hs := s.month_mem
  rw [lt_iff]
  simp only [monthIndex] at h
  omega

theorem eq_of_monthIndex_eq (hindex : r.monthIndex = s.monthIndex) :
    r.year = s.year ∧ r.month = s.month := by
  have hr := r.month_mem
  have hs := s.month_mem
  simp only [monthIndex] at hindex
  omega

theorem daysInMonth_of_monthIndex_eq (hindex : r.monthIndex = s.monthIndex) :
    r.daysInMonth = s.daysInMonth := by
  obtain ⟨hyear, hmonth⟩ := eq_of_monthIndex_eq hindex
  rw [daysInMonth, daysInMonth, hyear, hmonth]

/-- Dates are in the order of their months and, within a month, of their days. -/
theorem le_iff_monthIndex :
    r ≤ s ↔ r.monthIndex < s.monthIndex ∨ r.monthIndex = s.monthIndex ∧ r.day ≤ s.day := by
  have hr := r.month_mem
  have hs := s.month_mem
  rw [le_iff]
  unfold monthIndex
  omega

/-- The index of a month tells its year. -/
theorem monthIndex_div (d : Date) : d.monthIndex / 12 = d.year := by
  have hmonth := d.month_mem
  unfold monthIndex
  omega

/-- The index of a month tells its place in the year. -/
theorem monthIndex_mod (d : Date) : (d.monthIndex % 12).toNat + 1 = d.month := by
  have hmonth := d.month_mem
  unfold monthIndex
  omega

/-- The supported years have few months next to the numbers of 32 bits. -/
theorem monthIndex_mem (d : Date) : -3145716 ≤ d.monthIndex ∧ d.monthIndex ≤ 3145715 := by
  have hyear := d.year_mem
  have hindex := monthIndex_div d
  omega

/-! ## Moves by months -/

/-- The date some months after `d`: on the same day of its month, or on the last one if it ends before. -/
structure IsMonthLater (d : Date) (n : Int) (r : Date) : Prop where
  monthIndex : r.monthIndex = d.monthIndex + n
  day : r.day = min d.day r.daysInMonth

theorem IsMonthLater.le {m : Int} (hr : IsMonthLater d n r) (hs : IsMonthLater d m s) (hle : n ≤ m) :
    r ≤ s := by
  rcases Int.lt_or_eq_of_le hle with hlt | rfl
  · refine le_of_lt (lt_of_monthIndex_lt ?_)
    rw [hr.monthIndex, hs.monthIndex]
    omega
  · have hindex : r.monthIndex = s.monthIndex := hr.monthIndex.trans hs.monthIndex.symm
    obtain ⟨hyear, hmonth⟩ := eq_of_monthIndex_eq hindex
    refine le_of_eq (ext_iff.2 ⟨hyear, hmonth, ?_⟩)
    rw [hr.day, hs.day, daysInMonth_of_monthIndex_eq hindex]

theorem ofYmd_eq_ok_iff {year : Int} {month day : Nat} :
    ofYmd year month day = .ok r ↔ r.year = year ∧ r.month = month ∧ r.day = day := by
  rw [ofYmd, ofYmd?]
  split
  next r' h =>
    split at h
    · obtain rfl := Option.some.inj h
      rw [Except.ok.injEq, ext_iff]
      exact and_congr eq_comm (and_congr eq_comm eq_comm)
    · simp at h
  next h =>
    split at h
    · simp at h
    next hnot =>
      refine ⟨fun hr => by simp at hr, ?_⟩
      rintro ⟨rfl, rfl, rfl⟩
      exact absurd ⟨r.year_mem, r.month_mem, r.day_mem⟩ hnot

theorem addMonths_eq_ok_iff : d.addMonths n = .ok r ↔ IsMonthLater d n r := by
  simp only [addMonths]
  constructor
  · intro h
    split at h
    · obtain ⟨hyear, hmonth, hday⟩ := ofYmd_eq_ok_iff.1 h
      refine ⟨?_, ?_⟩
      · unfold monthIndex at hyear hmonth ⊢
        omega
      · rw [hday, daysInMonth, hyear, hmonth]
    · simp at h
  · intro h
    have hindex := monthIndex_mem r
    rw [← h.monthIndex, if_pos (by omega), ofYmd_eq_ok_iff, monthIndex_div, monthIndex_mod]
    exact ⟨rfl, rfl, h.day⟩

/-! ## Moves by tenors -/

theorem addTenorDays_eq_ok_iff {k : Nat} :
    d.addTenorDays k t = .ok r ↔ r.dayNumber = d.dayNumber + k := by
  rw [← addDays?_eq_some_iff]
  unfold addTenorDays
  split
  next r' hr' => rw [hr', Except.ok.injEq, Option.some.injEq]
  next hnone => simp [hnone]

theorem addTenorMonths_eq_ok_iff {k : Nat} : d.addTenorMonths k = .ok r ↔ IsMonthLater d k r := by
  unfold addTenorMonths
  split
  · exact addMonths_eq_ok_iff
  next hlarge =>
    refine ⟨fun h => by simp at h, fun h => ?_⟩
    -- So many months after a supported month there is none.
    have hd := monthIndex_mem d
    have hr := monthIndex_mem r
    have hindex := h.monthIndex
    omega

theorem addTenorYears_eq_ok_iff {k : Nat} (h : k < 2 ^ 32) :
    d.addTenor (.years k h) = .ok r ↔ IsMonthLater d (12 * k) r := by
  show (if 12 * k < 2 ^ 32 then d.addTenorMonths (12 * k) else _) = _ ↔ _
  by_cases hsmall : 12 * k < 2 ^ 32
  · rw [if_pos hsmall, addTenorMonths_eq_ok_iff]
    rfl
  · rw [if_neg hsmall]
    refine ⟨fun h => by simp at h, fun h => ?_⟩
    have hd := monthIndex_mem d
    have hr := monthIndex_mem r
    have hindex := h.monthIndex
    omega

/-- A tenor of days or weeks adds a number of days in proportion to its length. -/
theorem addTenor_eq_ok_iff_of_isDays (hunit : t.unit.IsDays) :
    d.addTenor t = .ok r ↔ ∃ k : Nat, t.length = 10000 * k ∧ r.dayNumber = d.dayNumber + k := by
  obtain ⟨amount, unit, hamount⟩ := t
  rcases hunit with rfl | rfl
  · have hlength : ∀ k, amount * 10000 = 10000 * k ↔ k = amount := fun k => by omega
    simp only [addTenor, addTenorDays_eq_ok_iff, Tenor.length, TenorUnit.length, hlength, exists_eq_left]
  · have hlength : ∀ k, amount * 70000 = 10000 * k ↔ k = 7 * amount := fun k => by omega
    simp only [addTenor, addTenorDays_eq_ok_iff, Tenor.length, TenorUnit.length, hlength, exists_eq_left]

/-- A tenor of months or years adds a number of months in proportion to its length. -/
theorem addTenor_eq_ok_iff_of_isMonths (hunit : t.unit.IsMonths) :
    d.addTenor t = .ok r ↔ ∃ k : Nat, t.length = 304375 * k ∧ IsMonthLater d k r := by
  obtain ⟨amount, unit, hamount⟩ := t
  rcases hunit with rfl | rfl
  · have hlength : ∀ k, amount * 304375 = 304375 * k ↔ k = amount := fun k => by omega
    simp only [addTenor, addTenorMonths_eq_ok_iff, Tenor.length, TenorUnit.length, hlength,
      exists_eq_left]
  · have hlength : ∀ k, amount * 3652500 = 304375 * k ↔ k = 12 * amount := fun k => by omega
    rw [show (⟨amount, .years, hamount⟩ : Tenor) = .years amount hamount from rfl,
      addTenorYears_eq_ok_iff]
    simp only [Tenor.length, Tenor.years, TenorUnit.length, hlength, exists_eq_left]
    rfl

/-- A longer tenor of the same kind of units leads to no earlier date. -/
theorem addTenor_mono (hunits : t.unit.IsDays ∧ u.unit.IsDays ∨ t.unit.IsMonths ∧ u.unit.IsMonths)
    (hle : t.length ≤ u.length) (hr : d.addTenor t = .ok r) (hs : d.addTenor u = .ok s) : r ≤ s := by
  rcases hunits with ⟨ht, hu⟩ | ⟨ht, hu⟩
  · obtain ⟨n, htn, hrn⟩ := (addTenor_eq_ok_iff_of_isDays ht).1 hr
    obtain ⟨m, hum, hsm⟩ := (addTenor_eq_ok_iff_of_isDays hu).1 hs
    rw [← dayNumber_le_iff]
    omega
  · obtain ⟨n, htn, hrn⟩ := (addTenor_eq_ok_iff_of_isMonths ht).1 hr
    obtain ⟨m, hum, hsm⟩ := (addTenor_eq_ok_iff_of_isMonths hu).1 hs
    exact hrn.le hsm (by omega)

/-! ## Errors -/

theorem exists_fault_of_ofYmd {year : Int} {month day : Nat} (h : ofYmd year month day = .error v) :
    ∃ fault, v = .invalidDate fault := by
  rw [ofYmd] at h
  split at h
  · simp at h
  · exact ⟨_, (Except.error.inj h).symm⟩

theorem exists_fault_of_addMonths (h : d.addMonths n = .error v) : ∃ fault, v = .invalidDate fault := by
  simp only [addMonths] at h
  split at h
  · exact exists_fault_of_ofYmd h
  · exact ⟨_, (Except.error.inj h).symm⟩

theorem exists_fault_of_addTenorDays {k : Nat} (h : d.addTenorDays k t = .error v) :
    ∃ fault, v = .invalidDate fault := by
  unfold addTenorDays at h
  split at h
  · simp at h
  · exact ⟨_, (Except.error.inj h).symm⟩

theorem exists_fault_of_addTenorMonths {k : Nat} (h : d.addTenorMonths k = .error v) :
    ∃ fault, v = .invalidDate fault := by
  rw [addTenorMonths] at h
  split at h
  · exact exists_fault_of_addMonths h
  · exact ⟨_, (Except.error.inj h).symm⟩

/-- A date cannot be moved by a tenor for reasons of dates only. -/
theorem exists_fault_of_addTenor (h : d.addTenor t = .error v) : ∃ fault, v = .invalidDate fault := by
  rw [addTenor] at h
  split at h
  · exact exists_fault_of_addTenorDays h
  · exact exists_fault_of_addTenorDays h
  · exact exists_fault_of_addTenorMonths h
  · split at h
    · exact exists_fault_of_addTenorMonths h
    · exact ⟨_, (Except.error.inj h).symm⟩

end Date

end TermStructure
