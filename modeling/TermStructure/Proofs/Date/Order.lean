import Mathlib.Order.Monotone.Basic
import Mathlib.Order.SuccPred.Archimedean
import Mathlib.Tactic.IntervalCases
import TermStructure.Date.Basic

/-!
# The order of dates

Dates are in a linear order, which is the order of their numbers (`Date.dayNumber_lt_iff`). The numbers
have no gaps, and a number is read back as its date (`Date.ofDayNumber?_eq_some_iff`).
-/

namespace TermStructure

/-! ## Months and years -/

namespace Civil

variable {year year' : Int} {m m' : Nat}

theorem daysInMonth_le (year : Int) (m : Nat) : daysInMonth year m ≤ 31 := by
  unfold daysInMonth
  split <;> try split
  all_goals omega

theorem le_daysInMonth (year : Int) (m : Nat) : 28 ≤ daysInMonth year m := by
  unfold daysInMonth
  split <;> try split
  all_goals omega

theorem daysBeforeMonth_add_one (h : 1 ≤ m ∧ m ≤ 11) :
    daysBeforeMonth year (m + 1) = daysBeforeMonth year m + daysInMonth year m := by
  obtain ⟨hlow, hhigh⟩ := h
  unfold daysBeforeMonth daysInMonth
  generalize isLeapYear year = leap
  interval_cases m <;> cases leap <;> rfl

theorem daysBeforeMonth_december (year : Int) :
    daysBeforeMonth year 12 + daysInMonth year 12 = daysInYear year := by
  unfold daysBeforeMonth daysInMonth daysInYear
  cases isLeapYear year <;> rfl

/-- A month ends before a later one begins. -/
theorem daysBeforeMonth_add_le (year : Int) (hm : 1 ≤ m) (hlt : m < m') (hm' : m' ≤ 12) :
    daysBeforeMonth year m + daysInMonth year m ≤ daysBeforeMonth year m' := by
  induction m', hlt using Nat.le_induction with
  | base => rw [daysBeforeMonth_add_one ⟨hm, by omega⟩]
  | succ k hk ih =>
    rw [daysBeforeMonth_add_one ⟨by omega, by omega⟩]
    exact Nat.le_trans (ih (by omega)) (Nat.le_add_right _ _)

/-- A month begins later than in another year by no more than the leap day of its own year. -/
theorem daysBeforeMonth_add_le_daysInYear (year year' : Int) (h : 1 ≤ m ∧ m ≤ 12) :
    daysBeforeMonth year m + 365 ≤ daysBeforeMonth year' m + daysInYear year := by
  obtain ⟨hlow, hhigh⟩ := h
  unfold daysBeforeMonth daysInYear
  generalize isLeapYear year = leap
  generalize isLeapYear year' = leap'
  interval_cases m <;> cases leap <;> cases leap' <;> decide

theorem le_daysInYear (year : Int) : 365 ≤ daysInYear year := by
  unfold daysInYear
  split <;> omega

theorem daysInYear_pos (year : Int) : 0 < daysInYear year :=
  Nat.lt_of_lt_of_le (by decide) (le_daysInYear year)

theorem daysInYear_le (year : Int) : daysInYear year ≤ 366 := by
  unfold daysInYear
  split <;> omega

theorem daysBeforeYear_lt_iff : daysBeforeYear year < daysBeforeYear year' ↔ year < year' := by
  have hmono : StrictMono daysBeforeYear := by
    refine strictMono_int_of_lt_succ fun year => ?_
    have hlong := le_daysInYear year
    rw [daysBeforeYear_add_one]
    omega
  exact hmono.lt_iff_lt

theorem daysBeforeYear_le_iff : daysBeforeYear year ≤ daysBeforeYear year' ↔ year ≤ year' := by
  rw [← Int.not_lt, ← Int.not_lt, daysBeforeYear_lt_iff]

/-- The day with a place in its year falls in a month. -/
def InMonth (year : Int) (ordinal m : Nat) : Prop :=
  (1 ≤ m ∧ m ≤ 12) ∧ daysBeforeMonth year m < ordinal ∧
    ordinal ≤ daysBeforeMonth year m + daysInMonth year m

theorem inMonth_of_le {ordinal : Nat} (hm : 1 ≤ m ∧ m ≤ 11)
    (hlow : ¬ ordinal ≤ daysBeforeMonth year m) (hhigh : ordinal ≤ daysBeforeMonth year (m + 1)) :
    InMonth year ordinal m :=
  ⟨⟨hm.1, by omega⟩, Nat.lt_of_not_le hlow, daysBeforeMonth_add_one hm ▸ hhigh⟩

theorem inMonth_monthOfOrdinal {ordinal : Nat} (h : 1 ≤ ordinal ∧ ordinal ≤ daysInYear year) :
    InMonth year ordinal (monthOfOrdinal year ordinal) := by
  have hzero : ¬ ordinal ≤ daysBeforeMonth year 1 := Nat.not_le.2 h.1
  have hmonth : ∀ m, 1 ≤ m ∧ m ≤ 11 → ¬ ordinal ≤ daysBeforeMonth year m →
      ordinal ≤ daysBeforeMonth year (m + 1) → InMonth year ordinal m := fun m => inMonth_of_le
  have hdecember : ¬ ordinal ≤ daysBeforeMonth year 12 → InMonth year ordinal 12 := fun hlow =>
    ⟨by decide, Nat.lt_of_not_le hlow, daysBeforeMonth_december year ▸ h.2⟩
  unfold monthOfOrdinal
  -- The months are tried in order, whatever their first days are.
  generalize InMonth year ordinal = P at *
  generalize daysBeforeMonth year = f at *
  iterate 11 refine iteInduction (hmonth _ (by decide) (by assumption)) fun _ => ?_
  exact hdecember (by assumption)

end Civil

namespace Date

variable {a b d : Date} {n : Int}

/-! ## The comparison -/

theorem lt_iff : a < b ↔ a.year < b.year ∨
    a.year = b.year ∧ (a.month < b.month ∨ a.month = b.month ∧ a.day < b.day) := by
  change (compare a b == .lt) = true ↔ _
  rw [beq_iff_eq]
  change Ordering.then _ (Ordering.then _ _) = .lt ↔ _
  simp only [Ordering.then_eq_lt, Nat.compare_eq_lt, Nat.compare_eq_eq, Int.compare_eq_lt,
    Int.compare_eq_eq]

theorem ext_iff : a = b ↔ a.year = b.year ∧ a.month = b.month ∧ a.day = b.day := by
  cases a
  cases b
  simp

theorem compare_eq_eq_iff : compare a b = .eq ↔ a = b := by
  change Ordering.then _ (Ordering.then _ _) = .eq ↔ _
  simp only [Ordering.then_eq_eq, Nat.compare_eq_eq, Int.compare_eq_eq, ext_iff]

theorem le_iff_lt_or_eq : a ≤ b ↔ a < b ∨ a = b := by
  rw [← compare_eq_eq_iff]
  change (compare a b).isLE = true ↔ (compare a b == .lt) = true ∨ _
  cases compare a b <;> decide

theorem le_iff : a ≤ b ↔ a.year < b.year ∨
    a.year = b.year ∧ (a.month < b.month ∨ a.month = b.month ∧ a.day ≤ b.day) := by
  rw [le_iff_lt_or_eq, lt_iff, ext_iff]
  omega

theorem year_le_of_le (h : a ≤ b) : a.year ≤ b.year := by
  rw [le_iff] at h
  omega

instance : LinearOrder Date where
  le_refl a := le_iff.2 (Or.inr ⟨rfl, Or.inr ⟨rfl, Nat.le_refl _⟩⟩)
  le_trans a b c hab hbc := by
    rw [le_iff] at *
    omega
  le_antisymm a b hab hba := by
    rw [le_iff] at hab hba
    rw [ext_iff]
    omega
  le_total a b := by
    rw [le_iff, le_iff]
    omega
  lt_iff_le_not_ge a b := by
    rw [lt_iff, le_iff, le_iff]
    omega
  toDecidableLE a b := inferInstanceAs (Decidable (a.le b = true))
  toDecidableEq := inferInstance
  compare_eq_compareOfLessAndEq a b := by
    rw [compareOfLessAndEq]
    split
    next h => exact beq_iff_eq.1 h
    next h =>
      split
      next heq => exact compare_eq_eq_iff.2 heq
      next hne =>
        have hlt : compare a b ≠ .lt := fun hc => h (beq_iff_eq.2 hc)
        have heq : compare a b ≠ .eq := fun hc => hne (compare_eq_eq_iff.1 hc)
        revert hlt heq
        cases compare a b <;> simp

/-! ## Numbers of days -/

theorem dayNumber_eq (d : Date) : d.dayNumber = Civil.daysBeforeYear d.year + d.ordinal := by
  simp only [dayNumber, Civil.dayNumber, ordinal, Nat.cast_add, Int.add_assoc]

theorem day_le (d : Date) : d.day ≤ 31 :=
  Nat.le_trans d.day_mem.2 (Civil.daysInMonth_le d.year d.month)

theorem ordinal_mem (d : Date) : 1 ≤ d.ordinal ∧ d.ordinal ≤ Civil.daysInYear d.year := by
  have hday := d.day_mem
  have hmonth := d.month_mem
  refine ⟨Nat.le_trans hday.1 (Nat.le_add_left _ _), ?_⟩
  have hle : d.ordinal ≤ Civil.daysBeforeMonth d.year d.month + Civil.daysInMonth d.year d.month :=
    Nat.add_le_add_left hday.2 _
  rw [← Civil.daysBeforeMonth_december]
  rcases Nat.lt_or_eq_of_le hmonth.2 with hlt | heq
  · exact Nat.le_trans hle (Nat.le_trans (Civil.daysBeforeMonth_add_le _ hmonth.1 hlt (Nat.le_refl _))
      (Nat.le_add_right _ _))
  · rwa [heq] at hle

theorem daysBeforeYear_lt (d : Date) : Civil.daysBeforeYear d.year < d.dayNumber := by
  have hordinal := d.ordinal_mem
  rw [dayNumber_eq]
  omega

theorem dayNumber_le (d : Date) : d.dayNumber ≤ Civil.daysBeforeYear (d.year + 1) := by
  have hordinal := d.ordinal_mem
  rw [dayNumber_eq, Civil.daysBeforeYear_add_one]
  omega

theorem dayNumber_lt_of_lt (hlt : a < b) : a.dayNumber < b.dayNumber := by
  rcases lt_iff.1 hlt with hyear | ⟨hyear, hmonth⟩
  · have hle := Civil.daysBeforeYear_le_iff.2 (show a.year + 1 ≤ b.year from hyear)
    exact (a.dayNumber_le.trans hle).trans_lt b.daysBeforeYear_lt
  · rw [dayNumber_eq, dayNumber_eq, hyear]
    have hordinal : a.ordinal < b.ordinal := by
      rw [ordinal, ordinal, hyear]
      rcases hmonth with hmonth | ⟨hmonth, hday⟩
      · have hbefore := Civil.daysBeforeMonth_add_le b.year a.month_mem.1 hmonth b.month_mem.2
        have ha := a.day_mem.2
        have hb := b.day_mem.1
        rw [hyear] at ha
        omega
      · rw [hmonth]
        omega
    omega

theorem dayNumber_le_iff : a.dayNumber ≤ b.dayNumber ↔ a ≤ b :=
  StrictMono.le_iff_le (f := dayNumber) fun _ _ => dayNumber_lt_of_lt

theorem dayNumber_lt_iff : a.dayNumber < b.dayNumber ↔ a < b :=
  StrictMono.lt_iff_lt (f := dayNumber) fun _ _ => dayNumber_lt_of_lt

theorem dayNumber_inj : a.dayNumber = b.dayNumber ↔ a = b := by
  rw [le_antisymm_iff, le_antisymm_iff (a := a), dayNumber_le_iff, dayNumber_le_iff]

/-! ## Dates by number -/

/-- A number whose year is supported is read back as a date. -/
theorem exists_ofDayNumber? (h : -262143 ≤ Civil.yearOfDay n ∧ Civil.yearOfDay n ≤ 262142) :
    ∃ d, ofDayNumber? n = some d ∧ d.dayNumber = n := by
  obtain ⟨hlow, hhigh⟩ := Civil.daysBeforeYear_yearOfDay n
  rw [Civil.daysBeforeYear_add_one] at hhigh
  rw [ofDayNumber?]
  generalize Civil.yearOfDay n = year at h hlow hhigh
  have hordinal : 1 ≤ (n - Civil.daysBeforeYear year).toNat ∧
      (n - Civil.daysBeforeYear year).toNat ≤ Civil.daysInYear year := by omega
  have hn : n = Civil.daysBeforeYear year + (n - Civil.daysBeforeYear year).toNat := by omega
  generalize (n - Civil.daysBeforeYear year).toNat = ordinal at hordinal hn
  obtain ⟨hmonth, hbefore, hwithin⟩ := Civil.inMonth_monthOfOrdinal hordinal
  generalize Civil.monthOfOrdinal year ordinal = month at hmonth hbefore hwithin
  have hday : 1 ≤ ordinal - Civil.daysBeforeMonth year month ∧
      ordinal - Civil.daysBeforeMonth year month ≤ Civil.daysInMonth year month := by omega
  refine ⟨⟨year, month, ordinal - Civil.daysBeforeMonth year month, h, hmonth, hday⟩,
    dif_pos ⟨h, hmonth, hday⟩, ?_⟩
  simp only [dayNumber, Civil.dayNumber]
  omega

/-- A number between those of two dates is read back as a date. -/
theorem exists_dayNumber (ha : a.dayNumber ≤ n) (hb : n ≤ b.dayNumber) :
    ∃ d, ofDayNumber? n = some d ∧ d.dayNumber = n := by
  obtain ⟨hlow, hhigh⟩ := Civil.daysBeforeYear_yearOfDay n
  refine exists_ofDayNumber? ⟨a.year_mem.1.trans ?_, Int.le_trans ?_ b.year_mem.2⟩
  · exact Int.le_of_lt_add_one (Civil.daysBeforeYear_lt_iff.1
      ((a.daysBeforeYear_lt.trans_le ha).trans_le hhigh))
  · exact Int.le_of_lt_add_one (Civil.daysBeforeYear_lt_iff.1
      ((hlow.trans_le hb).trans_le b.dayNumber_le))

theorem ofDayNumber?_eq_some_iff : ofDayNumber? n = some d ↔ d.dayNumber = n := by
  constructor
  · intro h
    have hyear : -262143 ≤ Civil.yearOfDay n ∧ Civil.yearOfDay n ≤ 262142 := by
      rw [ofDayNumber?, ofYmd?] at h
      split at h
      next hymd => exact hymd.1
      · simp at h
    obtain ⟨d', hd', hn⟩ := exists_ofDayNumber? hyear
    rwa [← Option.some.inj (hd'.symm.trans h)]
  · rintro rfl
    obtain ⟨d', hd', hn⟩ := exists_dayNumber (Int.le_refl d.dayNumber) (Int.le_refl d.dayNumber)
    rw [hd', dayNumber_inj.1 hn]

end Date

end TermStructure
