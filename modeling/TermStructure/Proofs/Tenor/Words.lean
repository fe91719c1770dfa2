import TermStructure.Proofs.Tenor.Order

/-!
# Lengths in machine words

A length is the product of an amount of 32 bits and the length of a unit. Multiplied in a word of 64 bits it
does not overflow (`Tenor.toNat_lengthWord`), so whatever looks at lengths may look at their words
(`Tenor.compareWords_eq`).
-/

namespace TermStructure.Tenor

variable {a b : Tenor}

/-- The length as it is multiplied in a word of 64 bits. -/
def lengthWord (t : Tenor) : UInt64 :=
  UInt64.ofNat t.amount * UInt64.ofNat t.unit.length

/-- The comparison with lengths in words. -/
def compareWords (a b : Tenor) : Ordering :=
  (compare a.lengthWord b.lengthWord).then ((compare a.unit.rank b.unit.rank).then
    (compare a.amount b.amount))

/-- No length is greater than that of the greatest number of years, which has 54 bits. -/
theorem length_le (t : Tenor) : t.length ≤ maxAmount * TenorUnit.years.length := by
  have hamount : t.amount ≤ maxAmount := Nat.le_sub_one_of_lt t.amount_lt
  have hunit : t.unit.length ≤ TenorUnit.years.length := by
    cases t.unit <;> decide
  exact Nat.mul_le_mul hamount hunit

theorem length_lt_word (t : Tenor) : t.length < 2 ^ 64 := by
  have hmost : maxAmount * TenorUnit.years.length < 2 ^ 64 := by decide
  exact Nat.lt_of_le_of_lt t.length_le hmost

theorem toNat_lengthWord (t : Tenor) : t.lengthWord.toNat = t.length := by
  have hamount : t.amount < 2 ^ 64 := Nat.lt_trans t.amount_lt (by decide)
  have hunit : t.unit.length < 2 ^ 64 := by
    cases t.unit <;> decide
  rw [lengthWord, UInt64.toNat_mul, UInt64.toNat_ofNat_of_lt' hamount,
    UInt64.toNat_ofNat_of_lt' hunit]
  exact Nat.mod_eq_of_lt t.length_lt_word

theorem lengthWord_lt_iff : a.lengthWord < b.lengthWord ↔ a.length < b.length := by
  rw [UInt64.lt_iff_toNat_lt, toNat_lengthWord, toNat_lengthWord]

theorem lengthWord_eq_iff : a.lengthWord = b.lengthWord ↔ a.length = b.length := by
  rw [← UInt64.toNat_inj, toNat_lengthWord, toNat_lengthWord]

theorem compareWords_eq (a b : Tenor) : compareWords a b = compare a b := by
  have hlength : compare a.lengthWord b.lengthWord = compare a.length b.length := by
    show compareOfLessAndEq a.lengthWord b.lengthWord = compareOfLessAndEq a.length b.length
    unfold compareOfLessAndEq
    simp only [lengthWord_lt_iff, lengthWord_eq_iff]
  unfold compareWords
  rw [hlength]
  rfl

end TermStructure.Tenor
