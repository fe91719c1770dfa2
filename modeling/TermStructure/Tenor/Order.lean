import TermStructure.Tenor.Basic

/-!
# The order of tenors

Tenors are ordered by length and, among tenors of one length, by the rank of the unit
(`Tenor.lt_iff`). The amount is never looked at, since length and unit determine it
(`Tenor.eq_of_length_of_rank`).
-/

namespace TermStructure

namespace TenorUnit

theorem length_pos (u : TenorUnit) : 0 < u.length := by
  cases u <;> decide

theorem rank_injective {u v : TenorUnit} (h : u.rank = v.rank) : u = v := by
  revert h
  cases u <;> cases v <;> decide

end TenorUnit

namespace Tenor

variable {a b : Tenor}

theorem amount_eq_of_length (hlength : a.length = b.length) (hunit : a.unit = b.unit) :
    a.amount = b.amount := by
  rw [length, length, hunit] at hlength
  exact Nat.eq_of_mul_eq_mul_right b.unit.length_pos hlength

theorem eq_of_length_of_rank (hlength : a.length = b.length) (hrank : a.unit.rank = b.unit.rank) :
    a = b := by
  have hunit := TenorUnit.rank_injective hrank
  have hamount := amount_eq_of_length hlength hunit
  cases a
  cases b
  simp only at hunit hamount
  subst hunit hamount
  rfl

/-! ## The comparison -/

theorem compare_eq_lt_iff : compare a b = .lt ↔
    a.length < b.length ∨ a.length = b.length ∧ a.unit.rank < b.unit.rank := by
  change Ordering.then _ _ = .lt ↔ _
  simp only [Ordering.then_eq_lt, Nat.compare_eq_lt, Nat.compare_eq_eq]
  constructor
  · rintro (h | ⟨hlength, h | ⟨hrank, hamount⟩⟩)
    · exact Or.inl h
    · exact Or.inr ⟨hlength, h⟩
    · have hunit := TenorUnit.rank_injective hrank
      exact absurd (amount_eq_of_length hlength hunit) (Nat.ne_of_lt hamount)
  · rintro (h | ⟨hlength, h⟩)
    · exact Or.inl h
    · exact Or.inr ⟨hlength, Or.inl h⟩

theorem compare_eq_eq_iff : compare a b = .eq ↔ a = b := by
  change Ordering.then _ _ = .eq ↔ _
  simp only [Ordering.then_eq_eq, Nat.compare_eq_eq]
  constructor
  · rintro ⟨hlength, hrank, -⟩
    exact eq_of_length_of_rank hlength hrank
  · rintro rfl
    exact ⟨rfl, rfl, rfl⟩

theorem lt_iff : a < b ↔ a.length < b.length ∨ a.length = b.length ∧ a.unit.rank < b.unit.rank := by
  rw [← compare_eq_lt_iff]
  exact beq_iff_eq

theorem le_iff_lt_or_eq : a ≤ b ↔ a < b ∨ a = b := by
  rw [← compare_eq_eq_iff, lt_iff, ← compare_eq_lt_iff]
  change (compare a b).isLE = true ↔ _
  cases compare a b <;> decide

theorem le_iff : a ≤ b ↔ a.length < b.length ∨ a.length = b.length ∧ a.unit.rank ≤ b.unit.rank := by
  rw [le_iff_lt_or_eq, lt_iff]
  constructor
  · rintro ((h | ⟨hlength, h⟩) | rfl)
    · exact Or.inl h
    · exact Or.inr ⟨hlength, Nat.le_of_lt h⟩
    · exact Or.inr ⟨rfl, Nat.le_refl _⟩
  · rintro (h | ⟨hlength, h⟩)
    · exact Or.inl (Or.inl h)
    · rcases Nat.lt_or_eq_of_le h with h | h
      · exact Or.inl (Or.inr ⟨hlength, h⟩)
      · exact Or.inr (eq_of_length_of_rank hlength h)

theorem compare_eq_gt_iff : compare a b = .gt ↔ b < a := by
  rw [lt_iff]
  change Ordering.then _ _ = .gt ↔ _
  simp only [Ordering.then_eq_gt, Nat.compare_eq_gt, Nat.compare_eq_eq]
  constructor
  · rintro (h | ⟨hlength, h | ⟨hrank, hamount⟩⟩)
    · exact Or.inl h
    · exact Or.inr ⟨hlength.symm, h⟩
    · have hunit := TenorUnit.rank_injective hrank
      exact absurd (amount_eq_of_length hlength hunit).symm (Nat.ne_of_lt hamount)
  · rintro (h | ⟨hlength, h⟩)
    · exact Or.inl h
    · exact Or.inr ⟨hlength.symm, Or.inl h⟩

protected theorem lt_trans {c : Tenor} (hab : a < b) (hbc : b < c) : a < c := by
  rw [lt_iff] at *
  omega

end Tenor

end TermStructure
