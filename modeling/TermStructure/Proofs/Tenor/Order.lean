import Mathlib.Order.Defs.LinearOrder
import TermStructure.Tenor.Order

/-!
# Tenors as a linear order

The comparison of tenors is a linear order, so the library's lemmas on orders apply. The least tenor is
`0D`.
-/

namespace TermStructure

namespace Tenor

variable {a b : Tenor}

instance : LinearOrder Tenor where
  le_refl a := le_iff.2 (Or.inr ⟨rfl, Nat.le_refl _⟩)
  le_trans a b c hab hbc := by
    rw [le_iff] at *
    omega
  le_antisymm a b hab hba := by
    rw [le_iff] at hab hba
    exact eq_of_length_of_rank (by omega) (by omega)
  le_total a b := by
    rw [le_iff, le_iff]
    omega
  lt_iff_le_not_ge a b := by
    rw [lt_iff, le_iff, le_iff]
    omega
  toDecidableLE a b := inferInstanceAs (Decidable (a.le b = true))
  toDecidableEq := inferInstance
  compare_eq_compareOfLessAndEq a b := by
    rw [compareOfLessAndEq]
    split
    next h => exact compare_eq_lt_iff.2 (lt_iff.1 h)
    next h =>
      split
      next heq => exact compare_eq_eq_iff.2 heq
      next hne =>
        have hlt : compare a b ≠ .lt := fun hc => h (lt_iff.2 (compare_eq_lt_iff.1 hc))
        have heq : compare a b ≠ .eq := fun hc => hne (compare_eq_eq_iff.1 hc)
        revert hlt heq
        cases compare a b <;> simp

@[simp] theorem le_eq_true : a.le b = true ↔ a ≤ b := Iff.rfl

@[simp] theorem lt_eq_true : a.lt b = true ↔ a < b := Iff.rfl

@[simp] theorem longerThan_eq_true : a.longerThan b = true ↔ b.length < a.length :=
  decide_eq_true_iff

@[simp] theorem sameLength_eq_true : a.sameLength b = true ↔ a.length = b.length :=
  beq_iff_eq

/-! ## Order and length -/

theorem lt_of_length_lt (h : a.length < b.length) : a < b :=
  lt_iff.2 (Or.inl h)

/-- What lies between tenors of one length is of this length. -/
theorem length_eq_of_between {t : Tenor} (hlength : a.length = b.length) (hat : a < t) (htb : t ≤ b) :
    t.length = a.length := by
  rw [lt_iff] at hat
  rw [le_iff] at htb
  omega

theorem lt_iff_rank (hlength : a.length = b.length) : a < b ↔ a.unit.rank < b.unit.rank := by
  rw [lt_iff]
  omega

theorem le_iff_rank (hlength : a.length = b.length) : a ≤ b ↔ a.unit.rank ≤ b.unit.rank := by
  rw [le_iff]
  omega

theorem length_zero : zero.length = 0 := by
  decide

/-- `0D` is the least tenor: it has no length, and its unit is the first. -/
theorem zero_le (t : Tenor) : zero ≤ t := by
  rw [le_iff, length_zero, show zero.unit.rank = 0 from rfl]
  omega

end Tenor

end TermStructure
