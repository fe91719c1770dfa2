import TermStructure.Proofs.Calendar.Adjust

/-!
# Modified conventions and months

A modified convention takes a closed date to the nearest business day on one side if that day is in the
month of the date, and to the nearest one on the other side if it is not. Adjustment tells months by their
names only. A search of almost a year can come to the month of the same name in another year, and then does
not turn round (`Calendar.not_followsInMonth`). This is the only exception, and there is none on calendars
that are never closed for eleven months (`Calendar.adjust_modified`).
-/

namespace TermStructure

namespace Date

variable {a b : Date}

/-- Both dates are in one month of one year. -/
def SameMonth (a b : Date) : Prop :=
  a.year = b.year ∧ a.month = b.month

theorem year_le_of_near (hnear : b.dayNumber ≤ a.dayNumber + 365) : b.year ≤ a.year + 1 := by
  by_contra hlt
  have hle := Civil.daysBeforeYear_le_iff.2 (show a.year + 1 + 1 ≤ b.year by omega)
  have hlong := Civil.le_daysInYear (a.year + 1)
  have ha := a.dayNumber_le
  have hb := b.daysBeforeYear_lt
  rw [Civil.daysBeforeYear_add_one] at hle
  omega

/-- Dates no more than a year apart in months of one name are in one month or in months a year apart. -/
theorem year_eq_or_of_month_eq (hle : a ≤ b) (hnear : b.dayNumber ≤ a.dayNumber + 365)
    (hmonth : a.month = b.month) : a.year = b.year ∨ b.monthIndex = a.monthIndex + 12 := by
  have hyear := year_le_of_near hnear
  rw [le_iff] at hle
  rw [monthIndex, monthIndex, hmonth]
  omega

/-- Months a year apart are more than eleven months apart. -/
theorem monthIndex_ne_of_near (hle : a ≤ b) (hnear : b.dayNumber ≤ a.dayNumber + 334) :
    b.monthIndex ≠ a.monthIndex + 12 := by
  have ha := a.month_mem
  have hb := b.month_mem
  intro hindex
  rw [monthIndex, monthIndex] at hindex
  have hyear := year_eq_of_month_eq hle hnear (by omega)
  omega

/-- Of two dates in months of different names, the later one is in a later month. -/
theorem monthIndex_lt_of_month_ne (hle : a ≤ b) (hmonth : a.month ≠ b.month) :
    a.monthIndex < b.monthIndex := by
  have ha := a.month_mem
  have hb := b.month_mem
  rw [le_iff] at hle
  rw [monthIndex, monthIndex]
  omega

end Date

namespace Calendar

variable {c : Calendar} {d r origin : Date} {step : Int} {fuel : Nat}

/-! ## Business days after and before a date -/

/-- The first business day after a date. -/
def IsFirstAfter (c : Calendar) (d r : Date) : Prop :=
  IsLeast {x | d < x ∧ c.isBusinessDay x = true} r

/-- The last business day before a date. -/
def IsLastBefore (c : Calendar) (d r : Date) : Prop :=
  IsGreatest {x | x < d ∧ c.isBusinessDay x = true} r

theorem isFirstAfter_iff (hd : ¬ c.isBusinessDay d = true) : c.IsFirstAfter d r ↔ c.IsNext d r := by
  have hset : {x | d < x ∧ c.isBusinessDay x = true} = {x | d ≤ x ∧ c.isBusinessDay x = true} := by
    refine Set.ext fun x => ⟨fun hx => ⟨hx.1.le, hx.2⟩, fun hx => ⟨lt_of_le_of_ne hx.1 ?_, hx.2⟩⟩
    rintro rfl
    exact hd hx.2
  rw [IsFirstAfter, IsNext, hset]

theorem isLastBefore_iff (hd : ¬ c.isBusinessDay d = true) :
    c.IsLastBefore d r ↔ c.IsPrevious d r := by
  have hset : {x | x < d ∧ c.isBusinessDay x = true} = {x | x ≤ d ∧ c.isBusinessDay x = true} := by
    refine Set.ext fun x => ⟨fun hx => ⟨hx.1.le, hx.2⟩, fun hx => ⟨lt_of_le_of_ne hx.1 ?_, hx.2⟩⟩
    rintro rfl
    exact hd hx.2
  rw [IsLastBefore, IsPrevious, hset]

/-! ## The rule of the modified conventions -/

/-- The first business day after a date if it is in the same month; if it is in a later month, the last
business day before the date. -/
def FollowsInMonth (c : Calendar) (d r : Date) : Prop :=
  c.IsFirstAfter d r ∧ d.SameMonth r ∨
    c.IsLastBefore d r ∧ ∃ q, c.IsFirstAfter d q ∧ d.monthIndex < q.monthIndex

/-- The last business day before a date if it is in the same month; if it is in an earlier month, the
first business day after the date. -/
def PrecedesInMonth (c : Calendar) (d r : Date) : Prop :=
  c.IsLastBefore d r ∧ r.SameMonth d ∨
    c.IsFirstAfter d r ∧ ∃ q, c.IsLastBefore d q ∧ q.monthIndex < d.monthIndex

theorem followsInMonth_or (hd : ¬ c.isBusinessDay d = true) (h : c.rollModified 1 d = .ok r) :
    c.FollowsInMonth d r ∨ c.IsFirstAfter d r ∧ r.monthIndex = d.monthIndex + 12 := by
  rcases rollModified_eq_ok h with ⟨hr, hmonth⟩ | ⟨hr, q, hq, hmonth⟩
  · have hnext := isNext_of_roll hr
    obtain ⟨k, hk, hsteps⟩ := exists_steps_of_rollFrom hr
    rw [searchDays] at hk
    rcases Date.year_eq_or_of_month_eq hnext.1.1 (by omega) hmonth.symm with hyear | hindex
    · exact Or.inl (Or.inl ⟨(isFirstAfter_iff hd).2 hnext, hyear, hmonth.symm⟩)
    · exact Or.inr ⟨(isFirstAfter_iff hd).2 hnext, hindex⟩
  · have hnext := isNext_of_roll hq
    exact Or.inl (Or.inr ⟨(isLastBefore_iff hd).2 (isPrevious_of_roll hr), q, (isFirstAfter_iff hd).2 hnext,
      Date.monthIndex_lt_of_month_ne hnext.1.1 hmonth.symm⟩)

theorem precedesInMonth_or (hd : ¬ c.isBusinessDay d = true) (h : c.rollModified (-1) d = .ok r) :
    c.PrecedesInMonth d r ∨ c.IsLastBefore d r ∧ d.monthIndex = r.monthIndex + 12 := by
  rcases rollModified_eq_ok h with ⟨hr, hmonth⟩ | ⟨hr, q, hq, hmonth⟩
  · have hprevious := isPrevious_of_roll hr
    obtain ⟨k, hk, hsteps⟩ := exists_steps_of_rollFrom hr
    rw [searchDays] at hk
    rcases Date.year_eq_or_of_month_eq hprevious.1.1 (by omega) hmonth with hyear | hindex
    · exact Or.inl (Or.inl ⟨(isLastBefore_iff hd).2 hprevious, hyear, hmonth⟩)
    · exact Or.inr ⟨(isLastBefore_iff hd).2 hprevious, hindex⟩
  · have hprevious := isPrevious_of_roll hq
    exact Or.inl (Or.inr ⟨(isFirstAfter_iff hd).2 (isNext_of_roll hr), q, (isLastBefore_iff hd).2 hprevious,
      Date.monthIndex_lt_of_month_ne hprevious.1.1 hmonth⟩)

theorem adjust_of_closed (hd : ¬ c.isBusinessDay d = true) :
    c.adjust d .modifiedFollowing = c.rollModified 1 d ∧
      c.adjust d .modifiedPreceding = c.rollModified (-1) d :=
  ⟨if_neg hd, if_neg hd⟩

/-- What closed dates are adjusted to by the modified conventions: either what the rule says, or the first
business day on the side of the convention, in a month twelve months away. The latter does not happen on
calendars that are never closed for more than 334 days in a row. -/
theorem adjust_modified (hd : ¬ c.isBusinessDay d = true) :
    (∀ r, c.adjust d .modifiedFollowing = .ok r →
      c.FollowsInMonth d r ∨ c.IsFirstAfter d r ∧ r.monthIndex = d.monthIndex + 12) ∧
    (∀ r, c.adjust d .modifiedPreceding = .ok r →
      c.PrecedesInMonth d r ∨ c.IsLastBefore d r ∧ d.monthIndex = r.monthIndex + 12) ∧
    (c.ClosedAtMost 334 →
      (∀ r, c.adjust d .modifiedFollowing = .ok r → c.FollowsInMonth d r) ∧
      ∀ r, c.adjust d .modifiedPreceding = .ok r → c.PrecedesInMonth d r) := by
  obtain ⟨hfollowing, hpreceding⟩ := adjust_of_closed hd
  rw [hfollowing, hpreceding]
  refine ⟨fun r => followsInMonth_or hd, fun r => precedesInMonth_or hd,
    fun hc => ⟨fun r hr => ?_, fun r hr => ?_⟩⟩
  · refine (followsInMonth_or hd hr).resolve_right fun ⟨hafter, hindex⟩ => ?_
    have hnear := ((isFirstAfter_iff hd).1 hafter).near hc (by decide)
    exact Date.monthIndex_ne_of_near hafter.1.1.le hnear hindex
  · refine (precedesInMonth_or hd hr).resolve_right fun ⟨hbefore, hindex⟩ => ?_
    have hnear := ((isLastBefore_iff hd).1 hbefore).near hc (by decide)
    exact Date.monthIndex_ne_of_near hbefore.1.1.le hnear hindex

/-- A Saturday at the end of May goes back to Friday, and one at the beginning of February goes on to
Monday. -/
theorem adjust_modified_weekend :
    ¬ weekendOnly.isBusinessDay ⟨2025, 5, 31, by decide, by decide, by decide⟩ = true ∧
    ¬ weekendOnly.isBusinessDay ⟨2025, 2, 1, by decide, by decide, by decide⟩ = true ∧
    weekendOnly.ClosedAtMost 334 ∧
    weekendOnly.FollowsInMonth ⟨2025, 5, 31, by decide, by decide, by decide⟩
      ⟨2025, 5, 30, by decide, by decide, by decide⟩ ∧
    weekendOnly.PrecedesInMonth ⟨2025, 2, 1, by decide, by decide, by decide⟩
      ⟨2025, 2, 3, by decide, by decide, by decide⟩ := by
  have hmay : ¬ weekendOnly.isBusinessDay ⟨2025, 5, 31, by decide, by decide, by decide⟩ = true := by
    decide
  have hfebruary : ¬ weekendOnly.isBusinessDay ⟨2025, 2, 1, by decide, by decide, by decide⟩ = true := by
    decide
  have hclosed : weekendOnly.ClosedAtMost 334 := closedAtMost_weekendOnly.mono (by decide)
  exact ⟨hmay, hfebruary, hclosed, ((adjust_modified hmay).2.2 hclosed).1 _ (by rfl),
    ((adjust_modified hfebruary).2.2 hclosed).2 _ (by rfl)⟩

/-- The 340 days from 31 January 2023 on. -/
def longClosure : HolidayList where
  name := "Closed for eleven months"
  dates := (List.range 340).filterMap fun n => Date.ofDayNumber? (738551 + (n : Nat))

/-- The closure and the weekend after it. -/
theorem longClosure_closed {x : Date} (hlow : 738551 ≤ x.dayNumber) (hhigh : x.dayNumber < 738893) :
    ¬ longClosure.calendar.isBusinessDay x = true := by
  simp only [HolidayList.calendar, Bool.and_eq_true, Bool.not_eq_true', not_and, Bool.not_eq_false]
  intro hweekday
  rw [← Bool.not_eq_true, Date.isWeekend_iff] at hweekday
  rw [List.contains_iff_mem, longClosure, List.mem_filterMap]
  refine ⟨(x.dayNumber - 738551).toNat, ?_, Date.ofDayNumber?_eq_some_iff.2 ?_⟩
  · rw [List.mem_range]
    omega
  · omega

/-- After a closure of eleven months the last day of January goes on to January of the next year. -/
theorem not_followsInMonth :
    ¬ longClosure.calendar.isBusinessDay ⟨2023, 1, 31, by decide, by decide, by decide⟩ = true ∧
    longClosure.calendar.adjust ⟨2023, 1, 31, by decide, by decide, by decide⟩ .modifiedFollowing =
      .ok ⟨2024, 1, 8, by decide, by decide, by decide⟩ ∧
    ¬ longClosure.calendar.FollowsInMonth ⟨2023, 1, 31, by decide, by decide, by decide⟩
      ⟨2024, 1, 8, by decide, by decide, by decide⟩ := by
  have hfirst : Date.dayNumber ⟨2023, 1, 31, by decide, by decide, by decide⟩ = 738551 := by decide
  have hopen : longClosure.calendar.isBusinessDay ⟨2024, 1, 8, by decide, by decide, by decide⟩ = true := by
    decide +kernel
  have hclosed := longClosure_closed (x := ⟨2023, 1, 31, by decide, by decide, by decide⟩)
    (by decide) (by decide)
  have hroll : longClosure.calendar.roll 1 ⟨2023, 1, 31, by decide, by decide, by decide⟩ =
      .ok ⟨2024, 1, 8, by decide, by decide, by decide⟩ := by
    refine rollFrom_eq_ok (k := 342) (by decide) (by decide) hopen fun j hj x hx => ?_
    rw [hfirst] at hx
    exact longClosure_closed (by omega) (by omega)
  refine ⟨hclosed, ?_, ?_⟩
  · rw [(adjust_of_closed hclosed).1, rollModified, hroll]
    rfl
  · rintro (⟨-, hyear, -⟩ | ⟨hbefore, -⟩)
    · exact absurd hyear (by decide)
    · exact absurd hbefore.1.1 (by decide)

end Calendar

end TermStructure
