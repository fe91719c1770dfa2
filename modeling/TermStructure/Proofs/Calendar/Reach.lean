import TermStructure.Proofs.Calendar.Adjust

/-!
# How far adjustment searches

A search looks at a date and at the 365 days on one side of it, as far as they are supported. It comes to the
nearest business day among them, and it fails only if there is none: then it has looked at all of them, or
the supported dates have ended (`Calendar.rollFrom_eq_error`). What a convention takes a date to is a business
day or the date itself, so adjusting once more changes nothing (`Calendar.adjust_adjust`).
-/

namespace TermStructure

namespace Calendar

variable {c : Calendar} {d r origin : Date} {convention : Convention} {step : Int} {fuel : Nat}

/-- The business days among a date and the 365 days after it. -/
def openAhead (c : Calendar) (d : Date) : Set Date :=
  {x | c.isBusinessDay x = true ∧ d ≤ x ∧ d.daysBetween x ≤ 365}

/-- The business days among a date and the 365 days before it. -/
def openBehind (c : Calendar) (d : Date) : Set Date :=
  {x | c.isBusinessDay x = true ∧ x ≤ d ∧ x.daysBetween d ≤ 365}

/-- Why a search has found nothing: it ended although there was a next day, or there was none. -/
def faultAt (c : Calendar) (origin : Date) : Option Date → CalendarFault
  | some _ => .noBusinessDay searchDays origin c.name
  | none => .leavesRange origin c.name

/-- An outcome is the best of some dates, or a fault of the calendar if there are none to choose from. -/
structure Chooses (best : Set Date → Date → Prop) (choices : Set Date) (fault : CalendarFault)
    (outcome : Except ValueError Date) : Prop where
  eq_ok_iff : ∀ r, outcome = .ok r ↔ best choices r
  succeeds_iff : (∃ r, outcome = .ok r) ↔ choices.Nonempty
  fails_iff : outcome = .error (.calendar fault) ↔ choices = ∅

/-! ## The end of a search -/

/-- A search that looks at closed days only fails by its last step, whether that leads to a date or not. -/
theorem rollFrom_eq_error
    (hclosed : ∀ k : Nat, k < fuel → ∀ x : Date, x.dayNumber = d.dayNumber + step * k →
      ¬ c.isBusinessDay x = true) :
    c.rollFrom step origin d fuel =
      .error (.calendar (c.faultAt origin (d.addDays? (step * fuel)))) := by
  induction fuel generalizing d with
  | zero =>
    have hself : d.addDays? (step * (0 : Nat)) = some d := Date.addDays?_eq_some_iff.2 (by simp)
    rw [rollFrom_zero, hself, faultAt]
  | succ fuel ih =>
    have hd : ¬ c.isBusinessDay d = true := hclosed 0 (Nat.succ_pos fuel) d (by simp)
    rw [rollFrom_succ, if_neg hd]
    cases hnext : d.addDays? step with
    | none =>
      -- What is beyond a day that is not supported is not supported either.
      have hend : d.addDays? (step * (fuel + 1 : Nat)) = none := by
        rw [Option.eq_none_iff_forall_ne_some]
        intro r hr
        obtain ⟨next, hsome⟩ := Date.exists_addDays?_of_steps (Date.addDays?_eq_some_iff.1 hr)
        rw [hnext] at hsome
        exact Option.some_ne_none next hsome.symm
      rw [hend]
      rfl
    | some next =>
      -- The search goes on from the next day with one step less, to the same last day.
      have hnumber := Date.addDays?_eq_some_iff.1 hnext
      have hsteps : step * (fuel + 1 : Nat) = step + step * fuel := by
        rw [Nat.cast_succ, Int.mul_add, Int.mul_one, Int.add_comm]
      have hlast : d.addDays? (step * (fuel + 1 : Nat)) = next.addDays? (step * fuel) := by
        rw [Date.addDays?, Date.addDays?, hnumber, hsteps, Int.add_assoc]
      rw [hlast]
      refine ih fun k hk x hx => hclosed (k + 1) (Nat.succ_lt_succ hk) x ?_
      rw [hx, hnumber, Nat.cast_succ, Int.mul_add, Int.mul_one]
      omega

theorem isBusinessDay_of_roll (h : c.roll step d = .ok r) : c.isBusinessDay r = true :=
  rollFrom_induction (P := fun _ r => c.isBusinessDay r = true) (fun _ hd => hd)
    (fun _ _ _ _ _ ih => ih) h

/-- A search with a business day within its reach comes to one. -/
theorem exists_rollFrom_eq_ok {k : Nat} {x : Date} (hk : k < fuel)
    (hx : x.dayNumber = d.dayNumber + step * k) (hopen : c.isBusinessDay x = true) :
    ∃ r, c.rollFrom step origin d fuel = .ok r := by
  classical
  have hex : ∃ k : Nat, ∃ x : Date, x.dayNumber = d.dayNumber + step * k ∧ c.isBusinessDay x = true :=
    ⟨k, x, hx, hopen⟩
  obtain ⟨r, hr, hropen⟩ := Nat.find_spec hex
  have hfirst : Nat.find hex ≤ k := Nat.find_min' hex ⟨x, hx, hopen⟩
  refine ⟨r, rollFrom_eq_ok (hfirst.trans_lt hk) hr hropen fun j hj y hy hyopen => ?_⟩
  exact Nat.find_min hex hj ⟨y, hy, hyopen⟩

theorem mem_openAhead_iff {x : Date} : x ∈ c.openAhead d ↔
    c.isBusinessDay x = true ∧ ∃ k : Nat, k < searchDays ∧ x.dayNumber = d.dayNumber + 1 * k := by
  refine and_congr_right fun _ => ?_
  rw [← Date.dayNumber_le_iff, Date.daysBetween, searchDays]
  constructor
  · rintro ⟨hle, hnear⟩
    exact ⟨(x.dayNumber - d.dayNumber).toNat, by omega, by omega⟩
  · rintro ⟨k, hk, hx⟩
    omega

theorem mem_openBehind_iff {x : Date} : x ∈ c.openBehind d ↔
    c.isBusinessDay x = true ∧ ∃ k : Nat, k < searchDays ∧ x.dayNumber = d.dayNumber + -1 * k := by
  refine and_congr_right fun _ => ?_
  rw [← Date.dayNumber_le_iff, Date.daysBetween, searchDays]
  constructor
  · rintro ⟨hle, hnear⟩
    exact ⟨(d.dayNumber - x.dayNumber).toNat, by omega, by omega⟩
  · rintro ⟨k, hk, hx⟩
    omega

/-- A search chooses from what is within its reach. -/
theorem chooses_roll {best : Set Date → Date → Prop} {choices : Set Date}
    (hchoices : ∀ x, x ∈ choices ↔
      c.isBusinessDay x = true ∧ ∃ k : Nat, k < searchDays ∧ x.dayNumber = d.dayNumber + step * k)
    (hbest : ∀ r, c.roll step d = .ok r ↔ best choices r) :
    Chooses best choices (c.faultAt d (d.addDays? (step * searchDays))) (c.roll step d) := by
  have hsome : choices.Nonempty → ∃ r, c.roll step d = .ok r := by
    rintro ⟨x, hx⟩
    obtain ⟨hopen, k, hk, hnumber⟩ := (hchoices x).1 hx
    exact exists_rollFrom_eq_ok hk hnumber hopen
  refine ⟨hbest, ⟨?_, hsome⟩, ⟨?_, ?_⟩⟩
  · rintro ⟨r, hr⟩
    obtain ⟨k, hk, hnumber⟩ := exists_steps_of_rollFrom hr
    exact ⟨r, (hchoices r).2 ⟨isBusinessDay_of_roll hr, k, hk, hnumber⟩⟩
  · intro hfault
    rw [← Set.not_nonempty_iff_eq_empty]
    intro hne
    obtain ⟨r, hr⟩ := hsome hne
    rw [hfault] at hr
    simp at hr
  · rintro rfl
    refine rollFrom_eq_error fun k hk x hx hopen => ?_
    exact (hchoices x).2 ⟨hopen, k, hk, hx⟩

theorem roll_one_eq_ok_iff : c.roll 1 d = .ok r ↔ IsLeast (c.openAhead d) r := by
  constructor
  · intro h
    obtain ⟨⟨hle, hopen⟩, hleast⟩ := isNext_of_roll h
    exact ⟨mem_openAhead_iff.2 ⟨hopen, exists_steps_of_rollFrom h⟩, fun x hx => hleast ⟨hx.2.1, hx.1⟩⟩
  · rintro ⟨hr, hleast⟩
    obtain ⟨hopen, k, hk, hnumber⟩ := mem_openAhead_iff.1 hr
    refine rollFrom_eq_ok hk hnumber hopen fun j hj x hx hxopen => ?_
    have hle := hleast (mem_openAhead_iff.2 ⟨hxopen, j, hj.trans hk, hx⟩)
    rw [← Date.dayNumber_le_iff] at hle
    omega

theorem roll_neg_one_eq_ok_iff : c.roll (-1) d = .ok r ↔ IsGreatest (c.openBehind d) r := by
  constructor
  · intro h
    obtain ⟨⟨hle, hopen⟩, hgreatest⟩ := isPrevious_of_roll h
    exact ⟨mem_openBehind_iff.2 ⟨hopen, exists_steps_of_rollFrom h⟩,
      fun x hx => hgreatest ⟨hx.2.1, hx.1⟩⟩
  · rintro ⟨hr, hgreatest⟩
    obtain ⟨hopen, k, hk, hnumber⟩ := mem_openBehind_iff.1 hr
    refine rollFrom_eq_ok hk hnumber hopen fun j hj x hx hxopen => ?_
    have hle := hgreatest (mem_openBehind_iff.2 ⟨hxopen, j, hj.trans hk, hx⟩)
    rw [← Date.dayNumber_le_iff] at hle
    omega

/-! ## Conventions -/

theorem adjust_of_open (h : c.isBusinessDay d = true) (convention : Convention) :
    c.adjust d convention = .ok d :=
  if_pos h

/-- A search from a business day ends there at once, so going forward or backward is nothing but a search. -/
theorem roll_of_open (h : c.isBusinessDay d = true) (step : Int) : c.roll step d = .ok d := by
  rw [roll, searchDays, rollFrom_succ, if_pos h]

theorem adjust_following (c : Calendar) (d : Date) : c.adjust d .following = c.roll 1 d := by
  by_cases h : c.isBusinessDay d = true
  · rw [adjust_of_open h, roll_of_open h]
  · exact if_neg h

theorem adjust_preceding (c : Calendar) (d : Date) : c.adjust d .preceding = c.roll (-1) d := by
  by_cases h : c.isBusinessDay d = true
  · rw [adjust_of_open h, roll_of_open h]
  · exact if_neg h

theorem adjust_unadjusted (c : Calendar) (d : Date) : c.adjust d .unadjusted = .ok d := by
  by_cases h : c.isBusinessDay d = true
  · exact adjust_of_open h .unadjusted
  · exact if_neg h

theorem Adjusted.isBusinessDay (h : c.Adjusted d convention r) (hne : convention ≠ .unadjusted) :
    c.isBusinessDay r = true := by
  cases convention with
  | unadjusted => exact absurd rfl hne
  | following => exact h.1.2
  | modifiedFollowing =>
    rcases h with ⟨h, -⟩ | ⟨h, -⟩
    · exact h.1.2
    · exact h.1.2
  | preceding => exact h.1.2
  | modifiedPreceding =>
    rcases h with ⟨h, -⟩ | ⟨h, -⟩
    · exact h.1.2
    · exact h.1.2

theorem adjust_adjust (h : c.adjust d convention = .ok r) : c.adjust r convention = .ok r := by
  by_cases hconvention : convention = .unadjusted
  · rw [hconvention]
    exact adjust_unadjusted c r
  · exact adjust_of_open ((adjusted_of_adjust h).isBusinessDay hconvention) convention

/-- Going forward finds the first business day among the date and the 365 days after it, going backward the
last one among the date and the 365 days before it, and nothing else makes them fail. Under all conventions
adjusting twice is adjusting once, and all but one lead to business days only. -/
theorem adjust_reach (c : Calendar) (d : Date) :
    Chooses IsLeast (c.openAhead d) (c.faultAt d (d.addDays? 366)) (c.adjust d .following) ∧
    Chooses IsGreatest (c.openBehind d) (c.faultAt d (d.addDays? (-366))) (c.adjust d .preceding) ∧
    ∀ convention,
      (∀ e, c.adjust d convention = .error e → ∃ fault, e = .calendar fault) ∧
      (∀ r, c.adjust d convention = .ok r → c.adjust r convention = .ok r) ∧
      (c.isBusinessDay d = true → c.adjust d convention = .ok d) ∧
      (convention ≠ .unadjusted → ∀ r, c.adjust d convention = .ok r → c.isBusinessDay r = true) := by
  refine ⟨?_, ?_, fun convention => ⟨?_, ?_, ?_, ?_⟩⟩
  · rw [adjust_following, ← show (1 : Int) * searchDays = 366 from rfl]
    exact chooses_roll (fun x => mem_openAhead_iff) fun r => roll_one_eq_ok_iff
  · rw [adjust_preceding, ← show (-1 : Int) * searchDays = -366 from rfl]
    exact chooses_roll (fun x => mem_openBehind_iff) fun r => roll_neg_one_eq_ok_iff
  · exact fun e => exists_fault_of_adjust
  · exact fun r => adjust_adjust
  · exact fun h => adjust_of_open h convention
  · exact fun hne r hr => (adjusted_of_adjust hr).isBusinessDay hne

/-- A calendar that is open on New Year 2024 and closed on all other days. -/
def openOnce : Calendar where
  name := "New Year 2024"
  isBusinessDay d := d.dayNumber == 738886

theorem eq_of_mem_openAhead {x : Date} (h : x ∈ openOnce.openAhead d) :
    x = ⟨2024, 1, 1, by decide, by decide, by decide⟩ :=
  Date.dayNumber_inj.1 ((beq_iff_eq.1 h.1).trans (by decide))

/-- New Year 2024 is found from 365 days before, but not from 366 days before. From the last date of all there
is nothing to go forward to. -/
theorem adjust_reach_openOnce :
    openOnce.adjust ⟨2023, 1, 1, by decide, by decide, by decide⟩ .following =
      .ok ⟨2024, 1, 1, by decide, by decide, by decide⟩ ∧
    openOnce.adjust ⟨2024, 1, 1, by decide, by decide, by decide⟩ .following =
      .ok ⟨2024, 1, 1, by decide, by decide, by decide⟩ ∧
    openOnce.adjust ⟨2022, 12, 31, by decide, by decide, by decide⟩ .following =
      .error (.calendar (.noBusinessDay 366 ⟨2022, 12, 31, by decide, by decide, by decide⟩
        "New Year 2024")) ∧
    openOnce.adjust Date.last .following =
      .error (.calendar (.leavesRange Date.last "New Year 2024")) := by
  obtain ⟨hnear, -, hall⟩ := adjust_reach openOnce ⟨2023, 1, 1, by decide, by decide, by decide⟩
  obtain ⟨hfar, -, -⟩ := adjust_reach openOnce ⟨2022, 12, 31, by decide, by decide, by decide⟩
  obtain ⟨hlast, -, -⟩ := adjust_reach openOnce Date.last
  have hfound := (hnear.eq_ok_iff ⟨2024, 1, 1, by decide, by decide, by decide⟩).2
    ⟨⟨by decide, by decide, by decide⟩, fun x hx => (eq_of_mem_openAhead hx).ge⟩
  refine ⟨hfound, (hall .following).2.1 _ hfound, hfar.fails_iff.2 ?_, hlast.fails_iff.2 ?_⟩
  · rw [Set.eq_empty_iff_forall_notMem]
    intro x hx
    obtain rfl := eq_of_mem_openAhead hx
    exact absurd hx.2.2 (by decide)
  · rw [Set.eq_empty_iff_forall_notMem]
    intro x hx
    obtain rfl := eq_of_mem_openAhead hx
    exact absurd hx.2.1 (by decide)

end Calendar

end TermStructure
