import TermStructure.Proofs.Date.Months
import TermStructure.Proofs.Tenor.Order

/-!
# Moves by tenors

Within the days and weeks, and within the months and years, a date moves by the length of a tenor alone: by
the days or months that it amounts to, counted over all integers (`Date.addTenor_eq_ok_iff_of_isDays`,
`Date.addTenor_eq_ok_iff_of_isMonths`). So tenors of one length move alike, and wherever a tenor leads, the
shorter ones lead too, and no further (`Date.exists_addTenor_of_length_le`).
-/

namespace TermStructure

theorem TenorUnit.isDays_or_isMonths (u : TenorUnit) : u.IsDays ∨ u.IsMonths := by
  cases u with
  | days => exact Or.inl (Or.inl rfl)
  | weeks => exact Or.inl (Or.inr rfl)
  | months => exact Or.inr (Or.inl rfl)
  | years => exact Or.inr (Or.inr rfl)

namespace Tenor

/-- Both tenors are of days and weeks, or both of months and years. -/
def OfOneKind (a b : Tenor) : Prop :=
  a.unit.IsDays ∧ b.unit.IsDays ∨ a.unit.IsMonths ∧ b.unit.IsMonths

theorem exists_length_of_isDays {t : Tenor} (hunit : t.unit.IsDays) : ∃ n : Nat, t.length = 10000 * n := by
  unfold length
  rcases hunit with hunit | hunit <;> rw [hunit, TenorUnit.length]
  · exact ⟨t.amount, by omega⟩
  · exact ⟨7 * t.amount, by omega⟩

theorem exists_length_of_isMonths {t : Tenor} (hunit : t.unit.IsMonths) :
    ∃ n : Nat, t.length = 304375 * n := by
  unfold length
  rcases hunit with hunit | hunit <;> rw [hunit, TenorUnit.length]
  · exact ⟨t.amount, by omega⟩
  · exact ⟨12 * t.amount, by omega⟩

end Tenor

namespace Date

variable {d r s : Date} {a b t : Tenor}

/-! ## One length -/

theorem addTenor_eq_ok_iff_of_length (hkind : a.OfOneKind b) (hlength : a.length = b.length) :
    d.addTenor a = .ok r ↔ d.addTenor b = .ok r := by
  rcases hkind with ⟨ha, hb⟩ | ⟨ha, hb⟩
  · rw [addTenor_eq_ok_iff_of_isDays ha, addTenor_eq_ok_iff_of_isDays hb, hlength]
  · rw [addTenor_eq_ok_iff_of_isMonths ha, addTenor_eq_ok_iff_of_isMonths hb, hlength]

/-- Tenors of one length lead to the same date, or both lead out of the supported years. -/
theorem addTenor_of_length (d : Date) (hkind : a.OfOneKind b) (hlength : a.length = b.length) :
    (∃ r, d.addTenor a = .ok r ∧ d.addTenor b = .ok r) ∨
      (∃ v, d.addTenor a = .error v) ∧ ∃ v, d.addTenor b = .error v := by
  cases ha : d.addTenor a with
  | ok r => exact Or.inl ⟨r, rfl, (addTenor_eq_ok_iff_of_length hkind hlength).1 ha⟩
  | error v =>
    cases hb : d.addTenor b with
    | ok r =>
      rw [(addTenor_eq_ok_iff_of_length hkind hlength).2 hb] at ha
      simp at ha
    | error w => exact Or.inr ⟨⟨v, rfl⟩, ⟨w, rfl⟩⟩

/-! ## Shorter tenors -/

theorem exists_isMonthLater_of_le {n m : Nat} (hs : IsMonthLater d m s) (hle : n ≤ m) :
    ∃ r, IsMonthLater d n r := by
  have hindex := hs.monthIndex
  have hlow := d.year_mem.1
  have hhigh := s.year_mem.2
  rw [exists_isMonthLater_iff]
  rw [← monthIndex_div] at hlow hhigh
  exact ⟨hlow.trans (by omega), Int.le_trans (by omega) hhigh⟩

/-- Where a tenor leads to a date, a shorter one of its kind leads to a date between. -/
theorem exists_addTenor_of_length_le (hkind : a.OfOneKind b) (hle : a.length ≤ b.length)
    (hs : d.addTenor b = .ok s) : ∃ r, d.addTenor a = .ok r ∧ r ≤ s := by
  obtain ⟨r, hr⟩ : ∃ r, d.addTenor a = .ok r := by
    rcases hkind with ⟨ha, hb⟩ | ⟨ha, hb⟩
    · obtain ⟨m, hbm, hsm⟩ := (addTenor_eq_ok_iff_of_isDays hb).1 hs
      obtain ⟨n, han⟩ := Tenor.exists_length_of_isDays ha
      obtain ⟨r, -, hr⟩ := exists_dayNumber (a := d) (b := s) (n := d.dayNumber + n) (by omega) (by omega)
      exact ⟨r, (addTenor_eq_ok_iff_of_isDays ha).2 ⟨n, han, hr⟩⟩
    · obtain ⟨m, hbm, hsm⟩ := (addTenor_eq_ok_iff_of_isMonths hb).1 hs
      obtain ⟨n, han⟩ := Tenor.exists_length_of_isMonths ha
      obtain ⟨r, hr⟩ := exists_isMonthLater_of_le hsm (show n ≤ m by omega)
      exact ⟨r, (addTenor_eq_ok_iff_of_isMonths ha).2 ⟨n, han, hr⟩⟩
  exact ⟨r, hr, addTenor_mono hkind hle hr hs⟩

/-! ## No length -/

theorem addTenor_of_isZero (d : Date) (hzero : t.isZero = true) : d.addTenor t = .ok d := by
  have hlength : t.length = 0 := by
    rw [Tenor.length, beq_iff_eq.1 hzero, Nat.zero_mul]
  rcases t.unit.isDays_or_isMonths with hunit | hunit
  · exact (addTenor_eq_ok_iff_of_isDays hunit).2 ⟨0, hlength, (Int.add_zero _).symm⟩
  · have hday : d.day = min d.day d.daysInMonth := (Nat.min_eq_left d.day_mem.2).symm
    exact (addTenor_eq_ok_iff_of_isMonths hunit).2 ⟨0, hlength, (Int.add_zero _).symm, hday⟩

/-! ## The laws of moves by tenors -/

/-- The days or months of a tenor, as many as the amount says, however large it is: the tenor leads to a date
if there is one so many days or months later, and to this date only. -/
structure ExactTotals (d : Date) : Prop where
  days : ∀ n hn r, d.addTenor (.days n hn) = .ok r ↔ r.dayNumber = d.dayNumber + n
  weeks : ∀ n hn r, d.addTenor (.weeks n hn) = .ok r ↔ r.dayNumber = d.dayNumber + 7 * n
  months : ∀ n hn r, d.addTenor (.months n hn) = .ok r ↔ IsMonthLater d n r
  years : ∀ n hn r, d.addTenor (.years n hn) = .ok r ↔ IsMonthLater d (12 * n) r

theorem exactTotals (d : Date) : d.ExactTotals where
  days _ _ _ := addTenorDays_eq_ok_iff
  weeks _ _ _ := addTenorDays_eq_ok_iff
  months _ _ _ := addTenorMonths_eq_ok_iff
  years _ hn _ := addTenorYears_eq_ok_iff hn

/-- Tenors of one kind and one length lead to the same date or both fail; if the greater of two tenors of one
kind leads to a date, so does the smaller one, and to no later date; tenors of nothing lead nowhere else. No
amount wraps in machine words: totals are exact, and without a date at their end there is an error of dates. -/
theorem moves_by_tenors :
    (∀ (d : Date) a b, a.OfOneKind b → a.sameLength b = true →
      (∃ r, d.addTenor a = .ok r ∧ d.addTenor b = .ok r) ∨
        (∃ v, d.addTenor a = .error v) ∧ ∃ v, d.addTenor b = .error v) ∧
    (∀ (d : Date) a b s, a.OfOneKind b → a ≤ b → d.addTenor b = .ok s →
      ∃ r, d.addTenor a = .ok r ∧ r ≤ s) ∧
    (∀ (d : Date) t, t.isZero = true → d.addTenor t = .ok d) ∧
    (∀ (d : Date) t, Words.addTenor d t = some (d.addTenor t)) ∧
    (∀ d : Date, d.ExactTotals) ∧
    (∀ (d : Date) t v, d.addTenor t = .error v → ∃ fault, v = .invalidDate fault) := by
  refine ⟨fun d a b hkind hsame => ?_, fun d a b s hkind hle hs => ?_, fun d t => addTenor_of_isZero d,
    Words.addTenor_eq, exactTotals, fun d t v => exists_fault_of_addTenor⟩
  · exact addTenor_of_length d hkind (beq_iff_eq.1 hsame)
  · have hlength : a.length ≤ b.length := by
      rw [Tenor.le_iff] at hle
      omega
    exact exists_addTenor_of_length_le hkind hlength hs

/-- At the ends of the supported years: both `24M` and `2Y` lead out of them, as does the greatest tenor of
years, whose months no word of 32 bits can hold; `12M` leads from the first day to a date since `1Y` does. -/
theorem moves_by_tenors_extremes :
    (Tenor.months 24).OfOneKind (.years 2) ∧ (Tenor.months 24).sameLength (.years 2) = true ∧
    (∃ v, last.addTenor (.months 24) = .error v) ∧ (∃ v, last.addTenor (.years 2) = .error v) ∧
    (∃ fault, last.addTenor (.years 4294967295) = .error (.invalidDate fault)) ∧
    Tenor.months 12 ≤ .years 1 ∧ (∃ s, first.addTenor (.years 1) = .ok s ∧
      ∃ r, first.addTenor (.months 12) = .ok r ∧ r ≤ s) ∧
    (Tenor.weeks 0).isZero = true ∧ last.addTenor (.weeks 0) = .ok last := by
  obtain ⟨hsame, hshorter, hzero, -, htotals, hfault⟩ := moves_by_tenors
  have hkind : ∀ n m hn hm, (Tenor.months n hn).OfOneKind (.years m hm) := fun n m hn hm =>
    Or.inr ⟨Or.inl rfl, Or.inr rfl⟩
  have hyears : ∀ n hn r, 0 < n → last.addTenor (.years n hn) ≠ .ok r := by
    intro n hn r hpos hr
    have hindex := ((htotals last).years n hn r |>.1 hr).monthIndex
    have hbound := monthIndex_mem r
    rw [show last.monthIndex = 3145715 from rfl] at hindex
    omega
  have hfirst : first.addTenor (.years 1) = .ok ⟨-262142, 1, 1, by decide, by decide, by decide⟩ := by rfl
  have hle : Tenor.months 12 ≤ .years 1 := by decide
  have hlength : (Tenor.months 24).sameLength (.years 2) = true := by decide
  have hnothing : (Tenor.weeks 0).isZero = true := by decide
  obtain ⟨hmonths, hfails⟩ : (∃ v, last.addTenor (.months 24) = .error v) ∧
      ∃ v, last.addTenor (.years 2) = .error v := by
    rcases hsame last _ _ (hkind 24 2 _ _) hlength with ⟨r, -, hr⟩ | hboth
    · exact absurd hr (hyears 2 _ r (by decide))
    · exact hboth
  have hgreatest : ∃ fault, last.addTenor (.years 4294967295) = .error (.invalidDate fault) := by
    cases hv : last.addTenor (.years 4294967295) with
    | ok r => exact absurd hv (hyears _ _ r (by decide))
    | error v =>
      obtain ⟨fault, rfl⟩ := hfault _ _ _ hv
      exact ⟨fault, rfl⟩
  exact ⟨hkind 24 2 _ _, hlength, hmonths, hfails, hgreatest, hle,
    ⟨_, hfirst, hshorter first _ _ _ (hkind 12 1 _ _) hle hfirst⟩, hnothing, hzero last _ hnothing⟩

end Date

end TermStructure
