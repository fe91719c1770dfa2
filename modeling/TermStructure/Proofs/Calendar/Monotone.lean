import TermStructure.Proofs.Calendar.Months

/-!
# Adjustment and the order of dates

Going forward or backward to a business day keeps the order of dates on every calendar. A modified convention
may take the earlier date forward and the later one backward; they do not cross as long as the calendar is
never closed for most of a year (`Calendar.adjust_keepsOrder`). On a calendar that is, they can
(`Calendar.not_keepsOrder_longClosure`).
-/

namespace TermStructure

namespace Calendar

variable {c : Calendar} {d : Date}

/-- Of two dates that can be adjusted, the later one is adjusted to no earlier date. -/
def KeepsOrder (c : Calendar) (convention : Convention) : Prop :=
  ∀ d e r s : Date, d ≤ e → c.adjust d convention = .ok r → c.adjust e convention = .ok s → r ≤ s

/-- All conventions keep the order of dates on calendars that are never closed for more than 300 days in a
row. Two of them keep it on every calendar, since they look to one side only. -/
theorem adjust_keepsOrder :
    (∀ c : Calendar, c.ClosedAtMost 300 → ∀ convention, c.KeepsOrder convention) ∧
    ∀ c : Calendar, c.KeepsOrder .following ∧ c.KeepsOrder .preceding := by
  refine ⟨?_, fun c => ⟨?_, ?_⟩⟩
  · intro c hc convention d e r s hle hr hs
    exact (adjusted_of_adjust hr).mono hc hle (adjusted_of_adjust hs)
  · intro d e r s hle hr hs
    have hnext : c.IsNext d r := adjusted_of_adjust hr
    exact hnext.mono hle (adjusted_of_adjust hs)
  · intro d e r s hle hr hs
    have hprevious : c.IsPrevious d r := adjusted_of_adjust hr
    exact hprevious.mono hle (adjusted_of_adjust hs)

/-- A weekend across the end of a month: Saturday goes back to Friday, and Sunday goes on to Monday. -/
theorem adjust_keepsOrder_weekend :
    weekendOnly.ClosedAtMost 300 ∧
    (⟨2025, 5, 31, by decide, by decide, by decide⟩ : Date) ≤
      ⟨2025, 6, 1, by decide, by decide, by decide⟩ ∧
    weekendOnly.adjust ⟨2025, 5, 31, by decide, by decide, by decide⟩ .modifiedFollowing =
      .ok ⟨2025, 5, 30, by decide, by decide, by decide⟩ ∧
    weekendOnly.adjust ⟨2025, 6, 1, by decide, by decide, by decide⟩ .modifiedFollowing =
      .ok ⟨2025, 6, 2, by decide, by decide, by decide⟩ ∧
    (⟨2025, 5, 30, by decide, by decide, by decide⟩ : Date) ≤
      ⟨2025, 6, 2, by decide, by decide, by decide⟩ := by
  have hclosed : weekendOnly.ClosedAtMost 300 := closedAtMost_weekendOnly.mono (by decide)
  have hle : (⟨2025, 5, 31, by decide, by decide, by decide⟩ : Date) ≤
      ⟨2025, 6, 1, by decide, by decide, by decide⟩ := by decide
  have hsaturday : weekendOnly.adjust ⟨2025, 5, 31, by decide, by decide, by decide⟩ .modifiedFollowing =
      .ok ⟨2025, 5, 30, by decide, by decide, by decide⟩ := by rfl
  have hsunday : weekendOnly.adjust ⟨2025, 6, 1, by decide, by decide, by decide⟩ .modifiedFollowing =
      .ok ⟨2025, 6, 2, by decide, by decide, by decide⟩ := by rfl
  exact ⟨hclosed, hle, hsaturday, hsunday,
    adjust_keepsOrder.1 _ hclosed _ _ _ _ _ hle hsaturday hsunday⟩

/-! ## A long closure -/

/-- From within the closure a search comes to the Monday after it or the one before it. -/
theorem roll_longClosure (hlow : 738551 ≤ d.dayNumber) (hhigh : d.dayNumber < 738893) :
    longClosure.calendar.roll 1 d = .ok ⟨2024, 1, 8, by decide, by decide, by decide⟩ ∧
    longClosure.calendar.roll (-1) d = .ok ⟨2023, 1, 30, by decide, by decide, by decide⟩ := by
  have hmonday : Date.dayNumber ⟨2024, 1, 8, by decide, by decide, by decide⟩ = 738893 := by decide
  have hmonday' : Date.dayNumber ⟨2023, 1, 30, by decide, by decide, by decide⟩ = 738550 := by decide
  constructor
  · refine rollFrom_eq_ok (k := (738893 - d.dayNumber).toNat) ?_ ?_ (by decide +kernel) ?_
    · rw [searchDays]
      omega
    · omega
    · intro j hj x hx
      exact longClosure_closed (by omega) (by omega)
  · refine rollFrom_eq_ok (k := (d.dayNumber - 738550).toNat) ?_ ?_ (by decide +kernel) ?_
    · rw [searchDays]
      omega
    · omega
    · intro j hj x hx
      exact longClosure_closed (by omega) (by omega)

/-- The last day of January goes forward to January of the next year, and the day after it goes back, since
January is not the month of that day. -/
theorem not_keepsOrder_longClosure : ¬ longClosure.calendar.KeepsOrder .modifiedFollowing := by
  intro hkeeps
  have hjanuary := longClosure_closed (x := ⟨2023, 1, 31, by decide, by decide, by decide⟩)
    (by decide) (by decide)
  have hfebruary := longClosure_closed (x := ⟨2023, 2, 1, by decide, by decide, by decide⟩)
    (by decide) (by decide)
  obtain ⟨hahead, -⟩ := roll_longClosure (d := ⟨2023, 1, 31, by decide, by decide, by decide⟩)
    (by decide) (by decide)
  obtain ⟨hahead', hback⟩ := roll_longClosure (d := ⟨2023, 2, 1, by decide, by decide, by decide⟩)
    (by decide) (by decide)
  have hr : longClosure.calendar.adjust ⟨2023, 1, 31, by decide, by decide, by decide⟩
      .modifiedFollowing = .ok ⟨2024, 1, 8, by decide, by decide, by decide⟩ := by
    rw [(adjust_of_closed hjanuary).1, rollModified, hahead]
    rfl
  have hs : longClosure.calendar.adjust ⟨2023, 2, 1, by decide, by decide, by decide⟩
      .modifiedFollowing = .ok ⟨2023, 1, 30, by decide, by decide, by decide⟩ := by
    rw [(adjust_of_closed hfebruary).1, rollModified, hahead']
    show (if _ then longClosure.calendar.roll (-1) _ else _) = _
    rw [if_pos (by decide)]
    exact hback
  exact absurd (hkeeps _ _ _ _ (by decide) hr hs) (by decide)

end Calendar

end TermStructure
