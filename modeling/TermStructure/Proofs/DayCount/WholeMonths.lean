import TermStructure.Proofs.DayCount.ThirtyDays

/-!
# Whole months of thirty days

A date and the date some months later are thirty days a month apart, unless a day is cut off at the end of
the later month that the convention would have counted (`DayCount.days_european_eq_iff`,
`DayCount.days_american_eq_iff`). From the last day of February the American rule counts whole months only
to the last day of another February (`DayCount.days_american_eq_iff_of_isEndOfFebruary`).
-/

namespace TermStructure.DayCount

variable {d r : Date} {n : Int}

/-- The European rule counts whole months if the later month has the day of the date, or its thirtieth. -/
theorem days_european_eq_iff (h : d.IsMonthLater n r) :
    thirty360European.days d r = 30 * n ↔ min d.day 30 ≤ r.daysInMonth := by
  have hindex := h.monthIndex
  have hday := h.day
  rw [days_european]
  unfold europeanPlace
  omega

/-- The American rule does so too, but from the last day of February. -/
theorem days_american_eq_iff (h : d.IsMonthLater n r) (hd : ¬ isEndOfFebruary d = true) :
    thirty360US.days d r = 30 * n ↔ min d.day 30 ≤ r.daysInMonth := by
  have hindex := h.monthIndex
  have hday := h.day
  have hnotBoth : ¬ (isEndOfFebruary d && isEndOfFebruary r) = true := by
    simp [hd]
  rw [days_american, endDayUS_eq, startDayUS_eq, if_neg hd, if_neg hnotBoth]
  split <;> omega

/-- The last day of February counts as a thirtieth, and so does no day of its number in a longer month. -/
theorem days_american_eq_iff_of_isEndOfFebruary (h : d.IsMonthLater n r)
    (hd : isEndOfFebruary d = true) :
    thirty360US.days d r = 30 * n ↔ isEndOfFebruary r = true := by
  have hindex := h.monthIndex
  have hday := h.day
  have hearly := day_february (isEndOfFebruary_iff.1 hd).1
  rw [if_pos hd] at hearly
  rw [days_american, endDayUS_eq, startDayUS_eq, hd, Bool.true_and, if_pos rfl, if_pos (le_refl 30)]
  by_cases hr : isEndOfFebruary r = true
  · simp only [hr, if_true, iff_true]
    omega
  · simp only [hr, if_false, iff_false, Bool.false_eq_true]
    omega

/-- Whole months have thirty days each from any day that all months have, but from the last day of February
under the American rule. -/
theorem days_of_monthLater (h : d.IsMonthLater n r) (hday : d.day ≤ 28) :
    thirty360European.days d r = 30 * n ∧
      (¬ (d.month = 2 ∧ d.day = d.daysInMonth) → thirty360US.days d r = 30 * n) := by
  have hlength : min d.day 30 ≤ r.daysInMonth :=
    (Nat.min_le_left _ _).trans (hday.trans (Civil.le_daysInMonth r.year r.month))
  refine ⟨(days_european_eq_iff h).2 hlength, fun hfebruary => ?_⟩
  rw [← isEndOfFebruary_iff] at hfebruary
  exact (days_american_eq_iff h hfebruary).2 hlength

/-- Under both conventions a date and the date some months later, or earlier, are thirty days a month apart if
the day is no later than the 28th, but under the American rule not from the last day of February. So a tenor
of years has 360 days a year. -/
theorem days_wholeMonths :
    (∀ (d : Date) n r, d.addMonths n = .ok r → d.day ≤ 28 →
      thirty360European.days d r = 30 * n ∧
        (¬ (d.month = 2 ∧ d.day = d.daysInMonth) → thirty360US.days d r = 30 * n)) ∧
    ∀ (d : Date) k hk r, d.addTenor (.years k hk) = .ok r → d.day ≤ 28 →
      thirty360European.days d r = 360 * k ∧
        (¬ (d.month = 2 ∧ d.day = d.daysInMonth) → thirty360US.days d r = 360 * k) := by
  constructor
  · intro d n r hr hday
    exact days_of_monthLater (Date.addMonths_eq_ok_iff.1 hr) hday
  · intro d k hk r hr hday
    have hyears := days_of_monthLater ((Date.addTenorYears_eq_ok_iff hk).1 hr) hday
    have hmonths : (30 : Int) * (12 * k) = 360 * k := by omega
    rw [hmonths] at hyears
    exact hyears

/-- From 28 February of a leap year, thirteen months back and a year on. That is the last day of its month, and
under the American rule the three years from it to a leap year are two days short. -/
theorem days_wholeMonths_leapYear : ∃ d e f g : Date,
    Date.ofYmd? 2024 2 28 = some d ∧ Date.ofYmd? 2023 1 28 = some e ∧ Date.ofYmd? 2025 2 28 = some f ∧
    Date.ofYmd? 2028 2 28 = some g ∧ d.addMonths (-13) = .ok e ∧ d.addTenor (.years 1) = .ok f ∧
    f.addMonths 36 = .ok g ∧ d.day ≤ 28 ∧ f.day ≤ 28 ∧ ¬ (d.month = 2 ∧ d.day = d.daysInMonth) ∧
    thirty360European.days d e = 30 * -13 ∧ thirty360US.days d e = 30 * -13 ∧
    thirty360European.days d f = 360 * 1 ∧ thirty360US.days d f = 360 * 1 ∧
    thirty360European.days f g = 30 * 36 ∧ thirty360US.days f g = 30 * 36 - 2 := by
  obtain ⟨hmonths, hyears⟩ := days_wholeMonths
  have hback : Date.addMonths ⟨2024, 2, 28, by decide, by decide, by decide⟩ (-13) =
      .ok ⟨2023, 1, 28, by decide, by decide, by decide⟩ := by rfl
  have hyear : Date.addTenor ⟨2024, 2, 28, by decide, by decide, by decide⟩ (.years 1) =
      .ok ⟨2025, 2, 28, by decide, by decide, by decide⟩ :=
    (Date.addTenorYears_eq_ok_iff _).2 ⟨by decide, by decide⟩
  have hlater : Date.addMonths ⟨2025, 2, 28, by decide, by decide, by decide⟩ 36 =
      .ok ⟨2028, 2, 28, by decide, by decide, by decide⟩ := by rfl
  obtain ⟨heuropean, hamerican⟩ := hmonths _ _ _ hback (by decide)
  obtain ⟨heuropean', hamerican'⟩ := hyears _ _ _ _ hyear (by decide)
  refine ⟨_, _, _, _, rfl, rfl, rfl, rfl, hback, hyear, hlater, by decide, by decide, by decide, heuropean,
    hamerican (by decide), heuropean', hamerican' (by decide), ?_, by decide⟩
  exact (hmonths _ _ _ hlater (by decide)).1

end TermStructure.DayCount
