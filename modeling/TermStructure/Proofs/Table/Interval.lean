import TermStructure.Proofs.Tenor.Words
import TermStructure.Table.Interval

/-!
# The order of tenors and of intervals

Both comparisons are total orders that tell all values apart (`ComparesTotally`). A tenor with a greater length
is greater, and the tenors of one length stand side by side, ordered by their units. Intervals are ordered by
their starts and, from one start, by their ends, the one without an end last. An interval holds its start and
not its end, since the end is longer than the start.
-/

namespace TermStructure

universe u

/-! ## Total orders -/

/-- A comparison is a total order, equal on nothing but equal values, and the same read from either side. -/
structure ComparesTotally {α : Type u} (cmp : α → α → Ordering) : Prop where
  total : ∀ a b, (cmp a b).isLE = true ∨ (cmp b a).isLE = true
  antisymm : ∀ a b, (cmp a b).isLE = true → (cmp b a).isLE = true → a = b
  trans : ∀ a b c, (cmp a b).isLE = true → (cmp b c).isLE = true → (cmp a c).isLE = true
  eq_iff : ∀ a b, cmp a b = .eq ↔ a = b
  swap : ∀ a b, cmp a b = (cmp b a).swap

theorem comparesTotally_of_lawful {α : Type u} (cmp : α → α → Ordering) [Std.TransCmp cmp]
    [Std.LawfulEqCmp cmp] : ComparesTotally cmp where
  total a b := by
    have hswap : cmp b a = (cmp a b).swap := Std.OrientedCmp.eq_swap
    rw [hswap]
    cases cmp a b <;> simp
  antisymm a b hab hba := by
    have heq : cmp a b = .eq := Std.OrientedCmp.isLE_antisymm hab hba
    exact Std.LawfulEqCmp.eq_of_compare heq
  trans a b c := Std.TransCmp.isLE_trans
  eq_iff a b := Std.LawfulEqCmp.compare_eq_iff_eq
  swap a b := Std.OrientedCmp.eq_swap

/-! ## Tenors -/

namespace Tenor

variable {a b : Tenor}

/-- Among tenors of one length the unit decides. -/
theorem compare_eq_of_length (h : a.length = b.length) :
    compare a b = compare a.unit.rank b.unit.rank := by
  cases hrank : compare a.unit.rank b.unit.rank with
  | lt => exact compare_eq_lt_iff.2 (Or.inr ⟨h, Nat.compare_eq_lt.1 hrank⟩)
  | eq => exact compare_eq_eq_iff.2 (eq_of_length_of_rank h (Nat.compare_eq_eq.1 hrank))
  | gt => exact compare_eq_gt_iff.2 (lt_iff.2 (Or.inr ⟨h.symm, Nat.compare_eq_gt.1 hrank⟩))

/-- The laws of tenors and their lengths. Lengths fit words of 64 bits, and tenors are compared as their words
are; tenors of one length are side by side, by unit, at most one of each. -/
structure Laws : Prop where
  fits : ∀ t : Tenor, t.amount * t.unit.length < 2 ^ 64 ∧ t.lengthWord.toNat = t.length
  words : ∀ a b : Tenor, compareWords a b = compare a b ∧
    a.longerThan b = decide (b.lengthWord < a.lengthWord) ∧
    a.sameLength b = decide (a.lengthWord = b.lengthWord)
  order : ComparesTotally (compare : Tenor → Tenor → Ordering)
  longer : ∀ a b : Tenor, a.longerThan b = true → compare a b = .gt
  sameLength : ∀ a b : Tenor,
    a.sameLength b = true ↔ a.longerThan b = false ∧ b.longerThan a = false
  between : ∀ a b t : Tenor, a.sameLength b = true → (compare a t).isLE = true →
    (compare t b).isLE = true → a.sameLength t = true ∧ t.sameLength b = true
  byUnit : ∀ a b : Tenor, a.sameLength b = true → compare a b = compare a.unit.rank b.unit.rank
  units : TenorUnit.days.rank < TenorUnit.weeks.rank ∧
    TenorUnit.weeks.rank < TenorUnit.months.rank ∧ TenorUnit.months.rank < TenorUnit.years.rank
  least : zero.text = "0D" ∧ ∀ t : Tenor, (compare zero t).isLE = true

theorem laws : Laws where
  fits t := ⟨t.length_lt_word, t.toNat_lengthWord⟩
  words a b := by
    refine ⟨compareWords_eq a b, ?_, ?_⟩
    · unfold longerThan
      simp only [lengthWord_lt_iff]
    · unfold sameLength
      simp only [lengthWord_eq_iff]
      rfl
  order := comparesTotally_of_lawful compare
  longer a b h := by
    apply compare_eq_gt_iff.2
    exact lt_of_length_lt (longerThan_eq_true.1 h)
  sameLength a b := by
    rw [sameLength_eq_true, ← Bool.not_eq_true, ← Bool.not_eq_true, longerThan_eq_true,
      longerThan_eq_true]
    omega
  between a b t hsame hat htb := by
    rw [sameLength_eq_true] at hsame
    have hlow : a.length ≤ t.length := by
      have hle := le_iff.1 (show a ≤ t from hat)
      omega
    have hhigh : t.length ≤ b.length := by
      have hle := le_iff.1 (show t ≤ b from htb)
      omega
    rw [sameLength_eq_true, sameLength_eq_true]
    omega
  byUnit a b h := compare_eq_of_length (sameLength_eq_true.1 h)
  units := by decide
  least := ⟨by decide, zero_le⟩

end Tenor

/-! ## Intervals -/

namespace Interval

variable {i j : Interval} {t : Tenor}

theorem contains_iff : i.contains t = true ↔ i.start ≤ t ∧ ∀ e ∈ i.stop, t < e := by
  rw [contains, Bool.and_eq_true, Tenor.le_eq_true]
  cases i.stop <;> simp

theorem contains_start (i : Interval) : i.contains i.start = true := by
  apply contains_iff.2
  exact ⟨le_refl _, fun e he => Tenor.lt_of_length_lt (i.start_length_lt e he)⟩

theorem not_contains_stop {e : Tenor} (he : e ∈ i.stop) : i.contains e = false := by
  rw [← Bool.not_eq_true, contains_iff]
  intro h
  exact lt_irrefl e (h.2 e he)

/-! ### Ends -/

theorem compareStops_swap (a b : Option Tenor) : compareStops a b = (compareStops b a).swap := by
  cases a <;> cases b
  · rfl
  · rfl
  · rfl
  · exact Std.OrientedOrd.eq_swap

theorem compareStops_trans {a b c : Option Tenor} (hab : (compareStops a b).isLE = true)
    (hbc : (compareStops b c).isLE = true) : (compareStops a c).isLE = true := by
  cases c with
  | none => cases a <;> rfl
  | some c =>
    -- What is no later than an end is an end itself.
    cases b with
    | none => exact nomatch hbc
    | some b =>
      cases a with
      | none => exact nomatch hab
      | some a =>
        have hab : (compare a b).isLE = true := hab
        have hbc : (compare b c).isLE = true := hbc
        exact Std.TransOrd.isLE_trans hab hbc

theorem compareStops_eq_eq_iff {a b : Option Tenor} : compareStops a b = .eq ↔ a = b := by
  cases a <;> cases b <;> simp [compareStops]

instance : Std.TransCmp compareStops where
  eq_swap := compareStops_swap _ _
  isLE_trans := compareStops_trans

/-! ### Starts and ends -/

theorem ext_iff_bounds : i = j ↔ i.start = j.start ∧ i.stop = j.stop := by
  cases i
  cases j
  simp

theorem compare_def (i j : Interval) :
    compare i j = (compare i.start j.start).then (compareStops i.stop j.stop) := rfl

instance : Std.TransOrd Interval where
  eq_swap {i j} := by
    rw [compare_def, compare_def, Ordering.swap_then, ← compareStops_swap, ← Std.OrientedOrd.eq_swap]
  isLE_trans {i j k} hij hjk := by
    rw [compare_def, Ordering.isLE_then_iff_or, Tenor.compare_eq_eq_iff] at *
    rcases hij with hij | ⟨hij, hstops⟩
    · rcases hjk with hjk | ⟨hjk, -⟩
      · exact Or.inl (Std.TransCmp.lt_trans hij hjk)
      · exact Or.inl (hjk ▸ hij)
    · rcases hjk with hjk | ⟨hjk, hstops'⟩
      · exact Or.inl (hij ▸ hjk)
      · exact Or.inr ⟨hij.trans hjk, compareStops_trans hstops hstops'⟩

theorem compare_eq_eq_iff : compare i j = .eq ↔ i = j := by
  rw [compare_def, Ordering.then_eq_eq, Tenor.compare_eq_eq_iff, compareStops_eq_eq_iff, ext_iff_bounds]

instance : Std.LawfulEqOrd Interval where
  compare_self := compare_eq_eq_iff.2 rfl
  eq_of_compare := compare_eq_eq_iff.1

theorem compare_of_start_eq (h : i.start = j.start) : compare i j = compareStops i.stop j.stop := by
  rw [compare_def, Tenor.compare_eq_eq_iff.2 h]
  rfl

/-- The laws of intervals: by start, those of one start by end, the one without an end last. The start is in an
interval and the end is not. -/
structure Laws : Prop where
  order : ComparesTotally (compare : Interval → Interval → Ordering)
  byStart : ∀ i j : Interval, i.start ≠ j.start → compare i j = compare i.start j.start
  byStop : ∀ (i j : Interval) (a b : Tenor), i.start = j.start → i.stop = some a → j.stop = some b →
    compare i j = compare a b
  unboundedLast : ∀ (i j : Interval), i.start = j.start → i.isUnbounded = false →
    j.isUnbounded = true → compare i j = .lt
  holdsStart : ∀ i : Interval, i.contains i.start = true
  excludesStop : ∀ (i : Interval) (a : Tenor), i.stop = some a → i.contains a = false

theorem laws : Laws where
  order := comparesTotally_of_lawful compare
  byStart i j h := by
    rw [compare_def]
    cases hstart : compare i.start j.start with
    | eq => exact absurd (Tenor.compare_eq_eq_iff.1 hstart) h
    | lt => rfl
    | gt => rfl
  byStop i j a b h hi hj := by
    rw [compare_of_start_eq h, hi, hj]
    rfl
  unboundedLast i j h hi hj := by
    obtain ⟨a, ha⟩ : ∃ a, i.stop = some a := Option.isSome_iff_exists.1 (by simpa [isUnbounded] using hi)
    rw [compare_of_start_eq h, ha, Option.isNone_iff_eq_none.1 hj]
    rfl
  holdsStart := contains_start
  excludesStop i a h := not_contains_stop h

end Interval

/-- Tenors and intervals are totally ordered, for all amounts and units. -/
theorem tenors_and_intervals_ordered : Tenor.Laws ∧ Interval.Laws :=
  ⟨Tenor.laws, Interval.laws⟩

end TermStructure
