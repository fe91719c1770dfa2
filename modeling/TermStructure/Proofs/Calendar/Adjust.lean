import Mathlib.Order.Bounds.Basic
import TermStructure.Calendar.Convention
import TermStructure.Proofs.Date.Shift

/-!
# Adjusted dates

Adjusting goes to the first business day from a date on or to the last one up to it, and the modified
conventions choose between the two by the month (`Calendar.adjusted_of_adjust`). On a calendar that is
never closed for most of a year, a choice by the name of the month is one by the month itself, so later
dates are adjusted to no earlier ones (`Calendar.Adjusted.mono`).
-/

namespace TermStructure

namespace Date

variable {a b d : Date}

theorem isWeekend_iff : d.isWeekend = true ↔ d.dayNumber % 7 = 6 ∨ d.dayNumber % 7 = 0 := by
  unfold isWeekend weekday
  generalize d.dayNumber = n
  have hlow : 0 ≤ n % 7 := Int.emod_nonneg n (by decide)
  have hhigh : n % 7 < 7 := Int.emod_lt_of_pos n (by decide)
  generalize n % 7 = k at *
  interval_cases k <;> decide

/-- Dates of less than eleven months apart in months of one name are in one month. -/
theorem year_eq_of_month_eq (hle : a ≤ b) (hnear : b.dayNumber ≤ a.dayNumber + 334)
    (hmonth : a.month = b.month) : a.year = b.year := by
  by_contra hne
  have hyear : a.year < b.year := by
    rw [le_iff] at hle
    omega
  have hbefore := Civil.daysBeforeMonth_add_le_daysInYear a.year b.year b.month_mem
  have hstrict := Civil.daysBeforeYear_le_iff.2 (show a.year + 1 ≤ b.year from hyear)
  rw [Civil.daysBeforeYear_add_one] at hstrict
  have hday := a.day_le
  have hday' := b.day_mem.1
  rw [dayNumber_eq, dayNumber_eq, ordinal, ordinal, hmonth] at hnear
  omega

/-- The first of some steps towards a date leads to a date between the two. -/
theorem exists_addDays?_of_steps {step : Int} {k : Nat}
    (h : b.dayNumber = a.dayNumber + step * (k + 1 : Nat)) : ∃ d, a.addDays? step = some d := by
  rw [Nat.cast_succ, Int.mul_add, Int.mul_one] at h
  obtain ⟨d, hd, -⟩ : ∃ d, ofDayNumber? (a.dayNumber + step) = some d ∧
      d.dayNumber = a.dayNumber + step := by
    rcases Int.le_total 0 step with hstep | hstep
    · have := Int.mul_nonneg hstep (Int.natCast_nonneg k)
      exact exists_dayNumber (a := a) (b := b) (by omega) (by omega)
    · have := Int.mul_nonpos_of_nonpos_of_nonneg hstep (Int.natCast_nonneg k)
      exact exists_dayNumber (a := b) (b := a) (by omega) (by omega)
  exact ⟨d, hd⟩

/-- What lies between dates of one month is in this month. -/
theorem month_eq_of_between (had : a ≤ d) (hdb : d ≤ b) (hyear : a.year = b.year)
    (hmonth : a.month = b.month) : d.month = a.month := by
  rw [le_iff] at had hdb
  omega

end Date

namespace Calendar

variable {c : Calendar} {d e r s q next origin : Date} {convention : Convention} {step : Int}
  {fuel : Nat}

/-! ## Next and previous business days -/

/-- The first business day from a date on. -/
def IsNext (c : Calendar) (d r : Date) : Prop :=
  IsLeast {x | d ≤ x ∧ c.isBusinessDay x = true} r

/-- The last business day up to a date. -/
def IsPrevious (c : Calendar) (d r : Date) : Prop :=
  IsGreatest {x | x ≤ d ∧ c.isBusinessDay x = true} r

theorem isNext_self (h : c.isBusinessDay d = true) : c.IsNext d d :=
  ⟨⟨le_refl d, h⟩, fun _ hx => hx.1⟩

theorem isPrevious_self (h : c.isBusinessDay d = true) : c.IsPrevious d d :=
  ⟨⟨le_refl d, h⟩, fun _ hx => hx.1⟩

theorem IsNext.of_next (hd : ¬ c.isBusinessDay d = true) (hnext : next.dayNumber = d.dayNumber + 1)
    (h : c.IsNext next r) : c.IsNext d r := by
  have hle : d ≤ next := Date.dayNumber_le_iff.1 (by omega)
  refine ⟨⟨hle.trans h.1.1, h.1.2⟩, fun x hx => h.2 ⟨?_, hx.2⟩⟩
  have hlt : d < x := lt_of_le_of_ne hx.1 (by rintro rfl; exact hd hx.2)
  rw [← Date.dayNumber_lt_iff] at hlt
  rw [← Date.dayNumber_le_iff]
  omega

theorem IsPrevious.of_previous (hd : ¬ c.isBusinessDay d = true)
    (hnext : next.dayNumber = d.dayNumber + -1) (h : c.IsPrevious next r) : c.IsPrevious d r := by
  have hle : next ≤ d := Date.dayNumber_le_iff.1 (by omega)
  refine ⟨⟨h.1.1.trans hle, h.1.2⟩, fun x hx => h.2 ⟨?_, hx.2⟩⟩
  have hlt : x < d := lt_of_le_of_ne hx.1 (by rintro rfl; exact hd hx.2)
  rw [← Date.dayNumber_lt_iff] at hlt
  rw [← Date.dayNumber_le_iff]
  omega

theorem rollFrom_zero (c : Calendar) (step : Int) (origin d : Date) : c.rollFrom step origin d 0 =
    .error (.calendar (.noBusinessDay searchDays origin c.name)) :=
  rfl

theorem rollFrom_succ (c : Calendar) (step : Int) (origin d : Date) (fuel : Nat) :
    c.rollFrom step origin d (fuel + 1) =
      if c.isBusinessDay d then .ok d
      else (d.addDays? step).elim (.error (.calendar (.leavesRange origin c.name)))
        fun next => c.rollFrom step origin next fuel := by
  change (if c.isBusinessDay d then _ else _) = _
  cases d.addDays? step <;> rfl

/-- A search ends at a business day, and each day before it was closed and led to the next one. So what
holds of business days and is handed on from day to day holds from the start. -/
theorem rollFrom_induction {P : Date → Date → Prop}
    (hopen : ∀ d, c.isBusinessDay d = true → P d d)
    (hclosed : ∀ d next r, ¬ c.isBusinessDay d = true → next.dayNumber = d.dayNumber + step →
      P next r → P d r)
    (h : c.rollFrom step origin d fuel = .ok r) : P d r := by
  induction fuel generalizing d with
  | zero => exact nomatch (rollFrom_zero c step origin d).symm.trans h
  | succ fuel ih =>
    rw [rollFrom_succ] at h
    by_cases hd : c.isBusinessDay d = true
    · rw [if_pos hd] at h
      obtain rfl := Except.ok.inj h
      exact hopen d hd
    · rw [if_neg hd] at h
      cases hnext : d.addDays? step with
      | none => exact nomatch hnext ▸ h
      | some next =>
        rw [hnext] at h
        exact hclosed d next r hd (Date.addDays?_eq_some_iff.1 hnext) (ih h)

/-- A search takes fewer steps than it looks at days. -/
theorem exists_steps_of_rollFrom (h : c.rollFrom step origin d fuel = .ok r) :
    ∃ k : Nat, k < fuel ∧ r.dayNumber = d.dayNumber + step * k := by
  induction fuel generalizing d with
  | zero => exact nomatch (rollFrom_zero c step origin d).symm.trans h
  | succ fuel ih =>
    rw [rollFrom_succ] at h
    by_cases hd : c.isBusinessDay d = true
    · rw [if_pos hd] at h
      obtain rfl := Except.ok.inj h
      exact ⟨0, Nat.succ_pos fuel, by simp⟩
    · rw [if_neg hd] at h
      cases hnext : d.addDays? step with
      | none => exact nomatch hnext ▸ h
      | some next =>
        rw [hnext] at h
        obtain ⟨k, hk, hr⟩ := ih h
        refine ⟨k + 1, Nat.succ_lt_succ hk, ?_⟩
        rw [hr, Date.addDays?_eq_some_iff.1 hnext, Nat.cast_succ, Int.mul_add, Int.mul_one]
        omega

/-- A search that takes fewer steps than it looks at days comes to a business day that no other one stands
before. -/
theorem rollFrom_eq_ok {k : Nat} (hk : k < fuel) (hr : r.dayNumber = d.dayNumber + step * k)
    (hopen : c.isBusinessDay r = true)
    (hclosed : ∀ j : Nat, j < k → ∀ x : Date, x.dayNumber = d.dayNumber + step * j →
      ¬ c.isBusinessDay x = true) : c.rollFrom step origin d fuel = .ok r := by
  induction k generalizing d fuel with
  | zero =>
    obtain rfl : r = d := Date.dayNumber_inj.1 (by simpa using hr)
    obtain ⟨fuel, rfl⟩ := Nat.exists_eq_succ_of_ne_zero (Nat.ne_of_gt hk)
    rw [rollFrom_succ, if_pos hopen]
  | succ k ih =>
    obtain ⟨fuel, rfl⟩ := Nat.exists_eq_succ_of_ne_zero (Nat.ne_of_gt (Nat.zero_lt_of_lt hk))
    have hsteps : step * (k + 1 : Nat) = step + step * k := by
      rw [Nat.cast_succ, Int.mul_add, Int.mul_one, Int.add_comm]
    obtain ⟨next, hnext⟩ := Date.exists_addDays?_of_steps hr
    have hnumber := Date.addDays?_eq_some_iff.1 hnext
    have hd : ¬ c.isBusinessDay d = true := hclosed 0 (Nat.succ_pos k) d (by simp)
    rw [rollFrom_succ, if_neg hd, hnext]
    refine ih (Nat.lt_of_succ_lt_succ hk) (by omega) fun j hj x hx => ?_
    refine hclosed (j + 1) (Nat.succ_lt_succ hj) x ?_
    rw [hx, hnumber, Nat.cast_succ, Int.mul_add, Int.mul_one]
    omega

theorem isNext_of_roll (h : c.roll 1 d = .ok r) : c.IsNext d r :=
  rollFrom_induction (fun _ => isNext_self) (fun _ _ _ hd hnext ih => ih.of_next hd hnext) h

theorem isPrevious_of_roll (h : c.roll (-1) d = .ok r) : c.IsPrevious d r :=
  rollFrom_induction (fun _ => isPrevious_self) (fun _ _ _ hd hnext ih => ih.of_previous hd hnext) h

theorem IsNext.mono (hle : d ≤ e) (hr : c.IsNext d r) (hs : c.IsNext e s) : r ≤ s :=
  hr.2 ⟨hle.trans hs.1.1, hs.1.2⟩

theorem IsPrevious.mono (hle : d ≤ e) (hr : c.IsPrevious d r) (hs : c.IsPrevious e s) : r ≤ s :=
  hs.2 ⟨hr.1.1.trans hle, hr.1.2⟩

/-! ## Errors -/

theorem exists_fault_of_rollFrom {v : ValueError} (h : c.rollFrom step origin d fuel = .error v) :
    ∃ fault, v = .calendar fault := by
  induction fuel generalizing d with
  | zero => exact ⟨_, (Except.error.inj h).symm⟩
  | succ fuel ih =>
    rw [rollFrom_succ] at h
    by_cases hd : c.isBusinessDay d = true
    · simp [hd] at h
    · rw [if_neg hd] at h
      cases hnext : d.addDays? step with
      | none =>
        rw [hnext] at h
        exact ⟨_, (Except.error.inj h).symm⟩
      | some next =>
        rw [hnext] at h
        exact ih h

theorem exists_fault_of_rollModified {v : ValueError} (h : c.rollModified step d = .error v) :
    ∃ fault, v = .calendar fault := by
  rw [rollModified] at h
  cases hq : c.roll step d with
  | error v' =>
    simp only [hq] at h
    obtain rfl := Except.error.inj h
    exact exists_fault_of_rollFrom hq
  | ok q =>
    simp only [hq] at h
    split at h
    · exact exists_fault_of_rollFrom h
    · simp at h

/-- Adjustment fails for reasons of the calendar only. -/
theorem exists_fault_of_adjust {v : ValueError} (h : c.adjust d convention = .error v) :
    ∃ fault, v = .calendar fault := by
  unfold adjust at h
  split at h
  · simp at h
  · cases convention with
    | unadjusted => simp at h
    | following => exact exists_fault_of_rollFrom h
    | modifiedFollowing => exact exists_fault_of_rollModified h
    | preceding => exact exists_fault_of_rollFrom h
    | modifiedPreceding => exact exists_fault_of_rollModified h

/-! ## Conventions -/

/-- What a date is adjusted to. -/
def Adjusted (c : Calendar) (d : Date) : Convention → Date → Prop
  | .unadjusted, r => r = d
  | .following, r => c.IsNext d r
  | .modifiedFollowing, r => c.IsNext d r ∧ r.month = d.month ∨
    c.IsPrevious d r ∧ ∃ q, c.IsNext d q ∧ q.month ≠ d.month
  | .preceding, r => c.IsPrevious d r
  | .modifiedPreceding, r => c.IsPrevious d r ∧ r.month = d.month ∨
    c.IsNext d r ∧ ∃ q, c.IsPrevious d q ∧ q.month ≠ d.month

theorem rollModified_eq_ok {step : Int} (h : c.rollModified step d = .ok r) :
    c.roll step d = .ok r ∧ r.month = d.month ∨
      c.roll (-step) d = .ok r ∧ ∃ q, c.roll step d = .ok q ∧ q.month ≠ d.month := by
  rw [rollModified] at h
  cases hq : c.roll step d with
  | error e => simp [hq] at h
  | ok q =>
    simp only [hq] at h
    by_cases hmonth : q.month = d.month
    · rw [if_neg (not_not.2 hmonth)] at h
      obtain rfl := Except.ok.inj h
      exact Or.inl ⟨rfl, hmonth⟩
    · rw [if_pos hmonth] at h
      exact Or.inr ⟨h, q, rfl, hmonth⟩

theorem adjusted_of_adjust (h : c.adjust d convention = .ok r) : c.Adjusted d convention r := by
  unfold adjust at h
  by_cases hd : c.isBusinessDay d = true
  · rw [if_pos hd] at h
    obtain rfl := Except.ok.inj h
    cases convention with
    | unadjusted => rfl
    | following => exact isNext_self hd
    | modifiedFollowing => exact Or.inl ⟨isNext_self hd, rfl⟩
    | preceding => exact isPrevious_self hd
    | modifiedPreceding => exact Or.inl ⟨isPrevious_self hd, rfl⟩
  · rw [if_neg hd] at h
    cases convention with
    | unadjusted => exact (Except.ok.inj h).symm
    | following => exact isNext_of_roll h
    | modifiedFollowing =>
      rcases rollModified_eq_ok h with ⟨hr, hmonth⟩ | ⟨hr, q, hq, hmonth⟩
      · exact Or.inl ⟨isNext_of_roll hr, hmonth⟩
      · exact Or.inr ⟨isPrevious_of_roll hr, q, isNext_of_roll hq, hmonth⟩
    | preceding => exact isPrevious_of_roll h
    | modifiedPreceding =>
      rcases rollModified_eq_ok h with ⟨hr, hmonth⟩ | ⟨hr, q, hq, hmonth⟩
      · exact Or.inl ⟨isPrevious_of_roll hr, hmonth⟩
      · exact Or.inr ⟨isNext_of_roll hr, q, isPrevious_of_roll hq, hmonth⟩

/-! ## Monotony -/

/-- A calendar is closed for no more than some days in a row. -/
def ClosedAtMost (c : Calendar) (days : Int) : Prop :=
  ∀ a b : Date, (∀ x, a ≤ x → x ≤ b → c.isBusinessDay x = false) → a.daysBetween b + 1 ≤ days

theorem ClosedAtMost.mono {days days' : Int} (hc : c.ClosedAtMost days) (hle : days ≤ days') :
    c.ClosedAtMost days' :=
  fun a b hclosed => (hc a b hclosed).trans hle

/-- Weekends have two days. -/
theorem closedAtMost_weekendOnly : weekendOnly.ClosedAtMost 2 := by
  intro a b hclosed
  by_contra hlong
  rw [Date.daysBetween] at hlong
  have hweekend : ∀ k : Int, 0 ≤ k → k ≤ 2 →
      (a.dayNumber + k) % 7 = 6 ∨ (a.dayNumber + k) % 7 = 0 := by
    intro k hk hk'
    obtain ⟨x, -, hx⟩ := Date.exists_dayNumber (n := a.dayNumber + k) (a := a) (b := b)
      (by omega) (by omega)
    rw [← hx, ← Date.isWeekend_iff]
    simpa [weekendOnly] using hclosed x (Date.dayNumber_le_iff.1 (by omega))
      (Date.dayNumber_le_iff.1 (by omega))
  have h0 := hweekend 0 (by decide) (by decide)
  have h1 := hweekend 1 (by decide) (by decide)
  have h2 := hweekend 2 (by decide) (by decide)
  omega

/-- A run of closed days that is given by their numbers, between two dates. -/
theorem ClosedAtMost.length_le {days first last : Int} (hc : c.ClosedAtMost days)
    (hfirst : d.dayNumber ≤ first) (hlast : last ≤ e.dayNumber) (hle : first ≤ last)
    (hclosed : ∀ x : Date, first ≤ x.dayNumber → x.dayNumber ≤ last → ¬ c.isBusinessDay x = true) :
    last - first + 1 ≤ days := by
  obtain ⟨a, -, ha⟩ := Date.exists_dayNumber hfirst (hle.trans hlast)
  obtain ⟨b, -, hb⟩ := Date.exists_dayNumber (hfirst.trans hle) hlast
  have hbetween := hc a b fun x hax hxb => by
    rw [← Date.dayNumber_le_iff] at hax hxb
    exact Bool.eq_false_iff.2 (hclosed x (by omega) (by omega))
  rw [Date.daysBetween, ha, hb] at hbetween
  exact hbetween

theorem IsNext.near {days : Int} (hc : c.ClosedAtMost days) (hdays : 0 ≤ days) (h : c.IsNext d r) :
    r.dayNumber ≤ d.dayNumber + days := by
  rcases h.1.1.eq_or_lt with rfl | hlt
  · omega
  · rw [← Date.dayNumber_lt_iff] at hlt
    have hclosed : ∀ x : Date, d.dayNumber ≤ x.dayNumber → x.dayNumber ≤ r.dayNumber - 1 →
        ¬ c.isBusinessDay x = true := by
      intro x hdx hxr hx
      have hrx := Date.dayNumber_le_iff.2 (h.2 ⟨Date.dayNumber_le_iff.1 hdx, hx⟩)
      omega
    have hlength := hc.length_le (d := d) (e := r) (by omega) (by omega) (by omega) hclosed
    omega

theorem IsPrevious.near {days : Int} (hc : c.ClosedAtMost days) (hdays : 0 ≤ days)
    (h : c.IsPrevious d r) : d.dayNumber ≤ r.dayNumber + days := by
  rcases h.1.1.eq_or_lt with rfl | hlt
  · omega
  · rw [← Date.dayNumber_lt_iff] at hlt
    have hclosed : ∀ x : Date, r.dayNumber + 1 ≤ x.dayNumber → x.dayNumber ≤ d.dayNumber →
        ¬ c.isBusinessDay x = true := by
      intro x hrx hxd hx
      have hxr := Date.dayNumber_le_iff.2 (h.2 ⟨Date.dayNumber_le_iff.1 hxd, hx⟩)
      omega
    have hlength := hc.length_le (d := r) (e := d) (by omega) (by omega) (by omega) hclosed
    omega

/-- If the next business day is in the month of a date, so are the days up to it. -/
theorem IsNext.month_eq (hc : c.ClosedAtMost 300) (hr : c.IsNext d r) (hmonth : r.month = d.month)
    (hde : d ≤ e) (her : e ≤ r) : e.month = d.month :=
  Date.month_eq_of_between hde her
    (Date.year_eq_of_month_eq hr.1.1 (hr.near (hc.mono (by decide)) (by decide)) hmonth.symm)
    hmonth.symm

/-- If the previous business day is in the month of a date, so are the days down to it. -/
theorem IsPrevious.month_eq (hc : c.ClosedAtMost 300) (hs : c.IsPrevious e s)
    (hmonth : s.month = e.month) (hsd : s ≤ d) (hde : d ≤ e) : d.month = e.month :=
  (Date.month_eq_of_between hsd hde
    (Date.year_eq_of_month_eq hs.1.1 (hs.near (hc.mono (by decide)) (by decide)) hmonth)
    hmonth).trans hmonth

/-- Going forward within the month of `d` and backward from `e` since the month of `e` is left. -/
theorem IsNext.le_previous (hc : c.ClosedAtMost 300) (hde : d ≤ e) (hr : c.IsNext d r)
    (hmonth : r.month = d.month) (hs : c.IsPrevious e s) (hq : c.IsNext e q)
    (hleft : q.month ≠ e.month) : r ≤ s := by
  rcases le_or_gt r e with hre | her
  · exact hs.2 ⟨hre, hr.1.2⟩
  · -- Both searches go forward to the same day, which is in one month with `e`.
    have hqr : q = r := le_antisymm (hq.2 ⟨her.le, hr.1.2⟩) (hr.mono hde hq)
    exact absurd (hqr ▸ hmonth.trans (hr.month_eq hc hmonth hde her.le).symm) hleft

/-- Going backward within the month of `e` and forward from `d` since the month of `d` is left. -/
theorem IsPrevious.next_le (hc : c.ClosedAtMost 300) (hde : d ≤ e) (hs : c.IsPrevious e s)
    (hmonth : s.month = e.month) (hr : c.IsNext d r) (hq : c.IsPrevious d q)
    (hleft : q.month ≠ d.month) : r ≤ s := by
  rcases le_or_gt d s with hds | hsd
  · exact hr.2 ⟨hds, hs.1.2⟩
  · have hqs : q = s := le_antisymm (hq.mono hde hs) (hq.2 ⟨hsd.le, hs.1.2⟩)
    exact absurd (hqs ▸ hmonth.trans (hs.month_eq hc hmonth hsd.le hde).symm) hleft

theorem Adjusted.mono (hc : c.ClosedAtMost 300) (hle : d ≤ e) (hr : c.Adjusted d convention r)
    (hs : c.Adjusted e convention s) : r ≤ s := by
  cases convention with
  | unadjusted =>
    obtain rfl : r = d := hr
    obtain rfl : s = e := hs
    exact hle
  | following => exact IsNext.mono hle hr hs
  | modifiedFollowing =>
    -- Each of the two dates goes forward, or backward out of the end of its month.
    rcases hr with ⟨hr, hmonth⟩ | ⟨hr, -⟩ <;> rcases hs with ⟨hs, -⟩ | ⟨hs, q, hq, hleft⟩
    · exact hr.mono hle hs
    · exact hr.le_previous hc hle hmonth hs hq hleft
    · exact (hr.1.1.trans hle).trans hs.1.1
    · exact hr.mono hle hs
  | preceding => exact IsPrevious.mono hle hr hs
  | modifiedPreceding =>
    rcases hr with ⟨hr, -⟩ | ⟨hr, q, hq, hleft⟩ <;> rcases hs with ⟨hs, hmonth⟩ | ⟨hs, -⟩
    · exact hr.mono hle hs
    · exact (hr.1.1.trans hle).trans hs.1.1
    · exact hs.next_le hc hle hmonth hr hq hleft
    · exact hr.mono hle hs

end Calendar

end TermStructure
