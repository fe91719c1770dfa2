import TermStructure.Proofs.Date.Words

/-!
# Moves by months

A date moves by months if the year of the month it comes to is supported, and there it keeps its day or
takes the last one (`Date.addMonths_eq_ok_iff`, `Date.exists_isMonthLater_iff`). The days of later months are
later, so moves keep the order of dates. Two moves are one move by the sum of the months, and a move can be
taken back, as long as the month in between has the day of the date (`Date.IsMonthLater.trans`,
`Date.IsMonthLater.back_iff`).
-/

namespace TermStructure.Date

variable {d e r s : Date} {n m : Int}

/-! ## Dates some months later -/

/-- There is a date some months later if the year of its month is supported. -/
theorem exists_isMonthLater_iff : (∃ r, IsMonthLater d n r) ↔
    minYear ≤ (d.monthIndex + n) / 12 ∧ (d.monthIndex + n) / 12 ≤ maxYear := by
  constructor
  · rintro ⟨r, hr⟩
    rw [← hr.monthIndex, monthIndex_div]
    exact r.year_mem
  · intro hyear
    obtain ⟨month, hmonth, hindex⟩ : ∃ month : Nat, (1 ≤ month ∧ month ≤ 12) ∧
        12 * ((d.monthIndex + n) / 12) + (month - 1 : Nat) = d.monthIndex + n :=
      ⟨((d.monthIndex + n) % 12).toNat + 1, by omega, by omega⟩
    generalize (d.monthIndex + n) / 12 = year at hyear hindex
    have hlength := Civil.le_daysInMonth year month
    have hday := d.day_mem
    exact ⟨⟨year, month, min d.day (Civil.daysInMonth year month), hyear, hmonth, by omega⟩, hindex, rfl⟩

theorem IsMonthLater.unique (hr : IsMonthLater d n r) (hs : IsMonthLater d n s) : r = s :=
  le_antisymm (hr.le hs (Int.le_refl n)) (hs.le hr (Int.le_refl n))

theorem IsMonthLater.lt (hr : IsMonthLater d n r) (hs : IsMonthLater d m s) (hlt : n < m) : r < s := by
  apply lt_of_monthIndex_lt
  rw [hr.monthIndex, hs.monthIndex]
  omega

/-- The same move leads from a later date to no earlier one. -/
theorem IsMonthLater.mono (hr : IsMonthLater d n r) (hs : IsMonthLater e n s) (hle : d ≤ e) : r ≤ s := by
  have hrIndex := hr.monthIndex
  have hsIndex := hs.monthIndex
  rw [le_iff_monthIndex]
  rcases le_iff_monthIndex.1 hle with hindex | ⟨hindex, hday⟩
  · exact Or.inl (by omega)
  · -- Both dates come to the same month, where the cut at its last day keeps the order of days.
    have hsame : r.monthIndex = s.monthIndex := by omega
    refine Or.inr ⟨hsame, ?_⟩
    rw [hr.day, hs.day, daysInMonth_of_monthIndex_eq hsame]
    exact min_le_min_right _ hday

/-! ## Moves in a row -/

/-- A move after another one comes to the same month as both at once, and to the same day if the month in
between has the day of the date. -/
theorem IsMonthLater.trans (hr : IsMonthLater d n r) (hs : IsMonthLater r m s) :
    ∃ t, IsMonthLater d (n + m) t ∧ t.monthIndex = s.monthIndex ∧
      (d.day ≤ r.daysInMonth → t = s) := by
  have hindex : s.monthIndex = d.monthIndex + (n + m) := by
    rw [hs.monthIndex, hr.monthIndex]
    omega
  obtain ⟨t, ht⟩ : ∃ t, IsMonthLater d (n + m) t := by
    rw [exists_isMonthLater_iff, ← hindex, monthIndex_div]
    exact s.year_mem
  refine ⟨t, ht, ht.monthIndex.trans hindex.symm, fun hlength => ht.unique ⟨hindex, ?_⟩⟩
  have hday : r.day = d.day := hr.day.trans (Nat.min_eq_left hlength)
  rw [hs.day, hday]

/-- The move back leads to the date again if no day was cut off. -/
theorem IsMonthLater.back_iff (hr : IsMonthLater d n r) :
    IsMonthLater r (-n) d ↔ d.day ≤ r.daysInMonth := by
  have hrDay := hr.day
  constructor
  · intro hback
    have hday := hback.day
    omega
  · intro hlength
    refine ⟨?_, ?_⟩
    · rw [hr.monthIndex]
      omega
    · have hday : d.day ≤ d.daysInMonth := d.day_mem.2
      omega

/-! ## The laws of moves by months -/

/-- A move by months succeeds if the year it comes to is supported, and no word of 32 bits overflows
unnoticed. It comes to the month that is counted, on the day of the date or on the last one. It keeps the
order of dates, grows with the number of months, and composes with others and with its reverse unless a day
is cut off in between. -/
theorem moves_by_months :
    (∀ (d : Date) n, Words.addMonths d n = some (d.addMonths n)) ∧
    (∀ (d : Date) n, (∃ r, d.addMonths n = .ok r) ↔
      minYear ≤ (d.monthIndex + n) / 12 ∧ (d.monthIndex + n) / 12 ≤ maxYear) ∧
    (∀ (d : Date) n r, d.addMonths n = .ok r →
      r.monthIndex = d.monthIndex + n ∧ r.day = min d.day r.daysInMonth) ∧
    (∀ (d e : Date) n r s, d ≤ e → d.addMonths n = .ok r → e.addMonths n = .ok s → r ≤ s) ∧
    (∀ (d : Date) n m r s, n < m → d.addMonths n = .ok r → d.addMonths m = .ok s → r < s) ∧
    (∀ (d : Date) n m r s, d.addMonths n = .ok r → r.addMonths m = .ok s →
      ∃ t, d.addMonths (n + m) = .ok t ∧ t.monthIndex = s.monthIndex ∧
        (d.day ≤ r.daysInMonth → t = s)) ∧
    (∀ (d : Date) n r, d.addMonths n = .ok r →
      (r.addMonths (-n) = .ok d ↔ d.day ≤ r.daysInMonth)) := by
  simp only [addMonths_eq_ok_iff]
  refine ⟨Words.addMonths_eq, fun d n => exists_isMonthLater_iff, fun d n r hr => ⟨hr.monthIndex, hr.day⟩,
    fun d e n r s hle hr hs => hr.mono hs hle, fun d n m r s hlt hr hs => hr.lt hs hlt,
    fun d n m r s hr hs => hr.trans hs, fun d n r hr => hr.back_iff⟩

/-- Two months after 31 January 2024 is 31 March. Month by month it is 29 March, since February cuts two days
off, and a month back from 29 February is no longer the last day of January. -/
theorem moves_by_months_february : ∃ d e r q s t : Date,
    ofYmd? 2024 1 31 = some d ∧ ofYmd? 2024 1 15 = some e ∧ ofYmd? 2024 2 29 = some r ∧
    ofYmd? 2024 2 15 = some q ∧ ofYmd? 2024 3 29 = some s ∧ ofYmd? 2024 3 31 = some t ∧
    d.addMonths 1 = .ok r ∧ e.addMonths 1 = .ok q ∧ r.addMonths 1 = .ok s ∧ d.addMonths 2 = .ok t ∧
    q ≤ r ∧ r < t ∧ t.monthIndex = s.monthIndex ∧ r.addMonths (-1) ≠ .ok d := by
  obtain ⟨-, -, -, hkeeps, hgrows, hrow, hback⟩ := moves_by_months
  have hd : addMonths ⟨2024, 1, 31, by decide, by decide, by decide⟩ 1 =
      .ok ⟨2024, 2, 29, by decide, by decide, by decide⟩ := by rfl
  have he : addMonths ⟨2024, 1, 15, by decide, by decide, by decide⟩ 1 =
      .ok ⟨2024, 2, 15, by decide, by decide, by decide⟩ := by rfl
  have hr : addMonths ⟨2024, 2, 29, by decide, by decide, by decide⟩ 1 =
      .ok ⟨2024, 3, 29, by decide, by decide, by decide⟩ := by rfl
  have ht : addMonths ⟨2024, 1, 31, by decide, by decide, by decide⟩ 2 =
      .ok ⟨2024, 3, 31, by decide, by decide, by decide⟩ := by rfl
  obtain ⟨t, hboth, hsame, -⟩ := hrow _ 1 1 _ _ hd hr
  obtain rfl := Except.ok.inj (ht.symm.trans hboth)
  refine ⟨_, _, _, _, _, _, rfl, rfl, rfl, rfl, rfl, rfl, hd, he, hr, ht, hkeeps _ _ 1 _ _ (by decide) he hd,
    hgrows _ 1 2 _ _ (by decide) hd ht, hsame, ?_⟩
  rw [ne_eq, hback _ 1 _ hd]
  decide

end TermStructure.Date
