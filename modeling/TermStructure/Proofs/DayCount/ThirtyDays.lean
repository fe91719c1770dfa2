import TermStructure.DayCount.Basic
import TermStructure.Proofs.Date.Shift

/-!
# The order of days in months of thirty days

The 30/360 conventions replace days of the month, and the American one replaces the second day by what the
first date is. Yet no count shrinks when the second date moves on, and none grows when the first one does
(`DayCount.days_monotone`). Within a month a replaced day stays between its neighbours; from one month to the
next, thirty days make up for whatever is replaced (`DayCount.endDayUS_add_startDayUS_le`).
-/

namespace TermStructure.DayCount

variable {a a' b b' d : Date}

theorem thirtyDayMonths_eq (a b : Date) (i j : Nat) :
    thirtyDayMonths a b i j = 30 * (b.monthIndex - a.monthIndex) + j - i := by
  have ha := a.month_mem
  have hb := b.month_mem
  unfold thirtyDayMonths Date.monthIndex
  omega

/-! ## The European rule -/

/-- The place of a date among months of thirty days. -/
def europeanPlace (d : Date) : Int :=
  30 * d.monthIndex + (min d.day 30 : Nat)

theorem days_european (a b : Date) :
    thirty360European.days a b = europeanPlace b - europeanPlace a := by
  show thirtyDayMonths a b (min a.day 30) (min b.day 30) = _
  rw [thirtyDayMonths_eq]
  unfold europeanPlace
  omega

theorem europeanPlace_mono (h : a ≤ b) : europeanPlace a ≤ europeanPlace b := by
  have hb := b.day_mem.1
  unfold europeanPlace
  rcases Date.le_iff_monthIndex.1 h with hindex | ⟨hindex, hday⟩ <;> omega

/-! ## Days of the American rule -/

theorem daysInMonth_february (h : d.month = 2) : 28 ≤ d.daysInMonth ∧ d.daysInMonth ≤ 29 := by
  unfold Date.daysInMonth Civil.daysInMonth
  rw [h]
  show 28 ≤ (if _ then 29 else 28) ∧ (if _ then 29 else 28) ≤ 29
  split <;> omega

theorem isEndOfFebruary_iff : isEndOfFebruary d = true ↔ d.month = 2 ∧ d.day = d.daysInMonth := by
  rw [isEndOfFebruary, Date.isEndOfMonth, Bool.and_eq_true, beq_iff_eq, beq_iff_eq]

/-- The last day of February is the 28th or the 29th, and the days before it are no later than the 28th. -/
theorem day_february (h : d.month = 2) :
    if isEndOfFebruary d then 28 ≤ d.day ∧ d.day ≤ 29 else d.day ≤ 28 := by
  have hlength := daysInMonth_february h
  have hday : d.day ≤ d.daysInMonth := d.day_mem.2
  split
  next hend =>
    have hlast := (isEndOfFebruary_iff.1 hend).2
    omega
  next hnot =>
    have hne : d.day ≠ d.daysInMonth := fun heq => hnot (isEndOfFebruary_iff.2 ⟨h, heq⟩)
    omega

theorem startDayUS_eq (a : Date) :
    startDayUS a = if isEndOfFebruary a then 30 else min a.day 30 := by
  have hday := a.day_le
  unfold startDayUS
  by_cases hend : isEndOfFebruary a = true
  · simp [hend]
  · simp only [hend, Bool.false_or, beq_iff_eq, Bool.false_eq_true, if_false]
    split <;> omega

theorem endDayUS_eq (a b : Date) : endDayUS a b =
    if isEndOfFebruary a && isEndOfFebruary b then 30
    else if 30 ≤ startDayUS a then min b.day 30 else b.day := by
  have hday := b.day_le
  unfold endDayUS
  split
  · rfl
  · simp only [Bool.and_eq_true, beq_iff_eq, decide_eq_true_iff]
    split <;> split <;> omega

theorem startDayUS_mem (a : Date) : 1 ≤ startDayUS a ∧ startDayUS a ≤ 30 := by
  have hday := a.day_mem.1
  rw [startDayUS_eq]
  split <;> omega

theorem le_endDayUS (a b : Date) : min b.day 30 ≤ endDayUS a b := by
  rw [endDayUS_eq]
  split
  · omega
  · split <;> omega

/-- The second day is moved on only to the 30th, together with the first. -/
theorem endDayUS_le (a b : Date) :
    endDayUS a b ≤ b.day ∨ startDayUS a = 30 ∧ endDayUS a b = 30 := by
  rw [endDayUS_eq]
  split
  next hends =>
    rw [Bool.and_eq_true] at hends
    exact Or.inr ⟨by rw [startDayUS_eq, if_pos hends.1], rfl⟩
  · split <;> omega

/-- A second date that is no end of February keeps its day, but the 31st after a first date with 30. -/
theorem endDayUS_of_not_isEndOfFebruary (a : Date) (hb : ¬ isEndOfFebruary b = true) :
    endDayUS a b = if 30 ≤ startDayUS a then min b.day 30 else b.day := by
  rw [endDayUS_eq, if_neg]
  rw [Bool.and_eq_true]
  exact fun h => hb h.2

theorem endDayUS_of_isEndOfFebruary (a : Date) (hb : isEndOfFebruary b = true) :
    endDayUS a b = if isEndOfFebruary a then 30 else b.day := by
  have hday := day_february (isEndOfFebruary_iff.1 hb).1
  rw [if_pos hb] at hday
  rw [endDayUS_eq, hb, Bool.and_true]
  split
  · rfl
  · split <;> omega

/-! ## One month -/

section SameMonth

variable (hindex : a.monthIndex = a'.monthIndex) (hday : a.day ≤ a'.day)

include hindex hday

/-- No day of a month comes after the end of February. -/
theorem isEndOfFebruary_of_le (h : isEndOfFebruary a = true) : isEndOfFebruary a' = true := by
  obtain ⟨hname, hlast⟩ := isEndOfFebruary_iff.1 h
  have hlength : a'.day ≤ a'.daysInMonth := a'.day_mem.2
  refine isEndOfFebruary_iff.2 ⟨(Date.eq_of_monthIndex_eq hindex).2 ▸ hname, ?_⟩
  rw [Date.daysInMonth_of_monthIndex_eq hindex] at hlast
  omega

theorem startDayUS_mono : startDayUS a ≤ startDayUS a' := by
  have hend := isEndOfFebruary_of_le hindex hday
  rw [startDayUS_eq, startDayUS_eq]
  by_cases ha : isEndOfFebruary a = true
  · rw [if_pos ha, if_pos (hend ha)]
  · rw [if_neg ha]
    split <;> omega

omit hday in
/-- The days of a month before the end of February are early enough for the end to be the 30th. -/
theorem startDayUS_le_of_isEndOfFebruary (ha' : isEndOfFebruary a' = true)
    (ha : ¬ isEndOfFebruary a = true) : startDayUS a ≤ 28 := by
  have hmonth := (Date.eq_of_monthIndex_eq hindex).2
  have hearly := day_february (hmonth.trans (isEndOfFebruary_iff.1 ha').1)
  rw [if_neg ha] at hearly
  rw [startDayUS_eq, if_neg ha]
  omega

/-- Within a month the first date's day grows at least as much as the second one's. -/
theorem endDayUS_add_startDayUS_le_of_month (b : Date) :
    endDayUS a' b + startDayUS a ≤ endDayUS a b + startDayUS a' := by
  have hgrows := startDayUS_mono hindex hday
  have hend := isEndOfFebruary_of_le hindex hday
  by_cases hb : isEndOfFebruary b = true
  · rw [endDayUS_of_isEndOfFebruary a hb, endDayUS_of_isEndOfFebruary a' hb]
    have hlate := day_february (isEndOfFebruary_iff.1 hb).1
    rw [if_pos hb] at hlate
    by_cases ha : isEndOfFebruary a = true
    · rw [if_pos ha, if_pos (hend ha)]
      omega
    · rw [if_neg ha]
      by_cases ha' : isEndOfFebruary a' = true
      · have hearly := startDayUS_le_of_isEndOfFebruary hindex ha' ha
        have hthirty : startDayUS a' = 30 := by rw [startDayUS_eq, if_pos ha']
        rw [if_pos ha']
        omega
      · rw [if_neg ha']
        omega
  · have hmem := startDayUS_mem a'
    rw [endDayUS_of_not_isEndOfFebruary a hb, endDayUS_of_not_isEndOfFebruary a' hb]
    split <;> split <;> omega

/-- Within a month the second date's day grows. -/
theorem endDayUS_mono (b : Date) : endDayUS b a ≤ endDayUS b a' := by
  by_cases ha : isEndOfFebruary a = true
  · rw [endDayUS_of_isEndOfFebruary b ha,
      endDayUS_of_isEndOfFebruary b (isEndOfFebruary_of_le hindex hday ha)]
    split <;> omega
  · rw [endDayUS_of_not_isEndOfFebruary b ha]
    by_cases ha' : isEndOfFebruary a' = true
    · have hlate := day_february (isEndOfFebruary_iff.1 ha').1
      rw [if_pos ha'] at hlate
      rw [endDayUS_of_isEndOfFebruary b ha']
      split <;> split <;> omega
    · rw [endDayUS_of_not_isEndOfFebruary b ha']
      split <;> omega

end SameMonth

/-- From one month to another the difference of the replaced days changes by no more than thirty. -/
theorem endDayUS_add_startDayUS_le (a a' b : Date) :
    endDayUS a' b + startDayUS a ≤ endDayUS a b + startDayUS a' + 30 := by
  have hday := b.day_le
  have hfirst := startDayUS_mem a
  have hsecond := startDayUS_mem a'
  have hlow := le_endDayUS a b
  rcases endDayUS_le a' b with hle | ⟨hstart, hend⟩ <;> omega

/-! ## Counts -/

theorem days_american (a b : Date) : thirty360US.days a b =
    30 * (b.monthIndex - a.monthIndex) + endDayUS a b - startDayUS a :=
  thirtyDayMonths_eq a b _ _

theorem days_american_mono (a : Date) (h : b ≤ b') : thirty360US.days a b ≤ thirty360US.days a b' := by
  rw [days_american, days_american]
  rcases Date.le_iff_monthIndex.1 h with hindex | ⟨hindex, hday⟩
  · have hb := b.day_le
    have hb' := b'.day_mem.1
    have hlow := le_endDayUS a b'
    rcases endDayUS_le a b with hle | ⟨-, hend⟩ <;> omega
  · have hmono := endDayUS_mono hindex hday a
    omega

theorem days_american_antitone (b : Date) (h : a ≤ a') :
    thirty360US.days a' b ≤ thirty360US.days a b := by
  rw [days_american, days_american]
  rcases Date.le_iff_monthIndex.1 h with hindex | ⟨hindex, hday⟩
  · have hle := endDayUS_add_startDayUS_le a a' b
    omega
  · have hle := endDayUS_add_startDayUS_le_of_month hindex hday b
    omega

theorem days_american_self (a : Date) : thirty360US.days a a = 0 := by
  have hday := a.day_le
  rw [days_american, endDayUS_eq, startDayUS_eq, Bool.and_self]
  split
  · omega
  · split <;> omega

/-- A count of days in months of thirty days grows with the second date, shrinks with the first one, and is
nothing between a date and itself; so it has the sign of the order of the dates. -/
theorem days_monotone (c : DayCount) (hc : c = thirty360US ∨ c = thirty360European) :
    (∀ a b b' : Date, b ≤ b' → c.days a b ≤ c.days a b') ∧
    (∀ a a' b : Date, a ≤ a' → c.days a' b ≤ c.days a b) ∧
    (∀ a, c.days a a = 0) ∧ (∀ a b : Date, a ≤ b → 0 ≤ c.days a b) ∧
    ∀ a b : Date, b ≤ a → c.days a b ≤ 0 := by
  obtain ⟨hmono, hanti, hself⟩ : (∀ a b b' : Date, b ≤ b' → c.days a b ≤ c.days a b') ∧
      (∀ a a' b : Date, a ≤ a' → c.days a' b ≤ c.days a b) ∧ ∀ a, c.days a a = 0 := by
    rcases hc with rfl | rfl
    · exact ⟨fun a b b' h => days_american_mono a h, fun a a' b h => days_american_antitone b h,
        days_american_self⟩
    · simp only [days_european]
      exact ⟨fun a b b' h => Int.sub_le_sub_right (europeanPlace_mono h) _,
        fun a a' b h => Int.sub_le_sub_left (europeanPlace_mono h) _, fun a => Int.sub_self _⟩
  refine ⟨hmono, hanti, hself, fun a b h => ?_, fun a b h => ?_⟩
  · rw [← hself a]
    exact hmono a a b h
  · rw [← hself a]
    exact hmono a b a h

/-- The last day of February 2025 counts as a 30th: it is nearer to 31 March than the day before it, and no
nearer than the day after it. -/
theorem days_monotone_february : ∃ d e f r : Date,
    Date.ofYmd? 2025 2 27 = some d ∧ Date.ofYmd? 2025 2 28 = some e ∧ Date.ofYmd? 2025 3 1 = some f ∧
    Date.ofYmd? 2025 3 31 = some r ∧ (thirty360US = thirty360US ∨ thirty360US = thirty360European) ∧
    d ≤ e ∧ e ≤ f ∧ thirty360US.days f r ≤ thirty360US.days e r ∧
    thirty360US.days e r ≤ thirty360US.days d r ∧ 0 ≤ thirty360US.days f r := by
  have hc : thirty360US = thirty360US ∨ thirty360US = thirty360European := Or.inl rfl
  have hde : (⟨2025, 2, 27, by decide, by decide, by decide⟩ : Date) ≤
      ⟨2025, 2, 28, by decide, by decide, by decide⟩ := by decide
  have hef : (⟨2025, 2, 28, by decide, by decide, by decide⟩ : Date) ≤
      ⟨2025, 3, 1, by decide, by decide, by decide⟩ := by decide
  have hfr : (⟨2025, 3, 1, by decide, by decide, by decide⟩ : Date) ≤
      ⟨2025, 3, 31, by decide, by decide, by decide⟩ := by decide
  obtain ⟨-, hanti, -, hsign, -⟩ := days_monotone thirty360US hc
  exact ⟨_, _, _, _, rfl, rfl, rfl, rfl, hc, hde, hef, hanti _ _ _ hef, hanti _ _ _ hde,
    hsign _ _ hfr⟩

end TermStructure.DayCount
