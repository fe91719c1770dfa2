import TermStructure.Number.Decimal

/-!
# Bounds of decimals

`AtMost b x`: a decimal is no less than zero and no greater than a whole number. A quotient keeps the bound
of the exact quotient, whatever is rounded and whichever zeros are dropped (`Decimal.atMost_divide`), and a
sum has the sum of the bounds (`Decimal.AtMost.add`). For a bound that 96 bits can hold, neither of them
overflows (`Decimal.divide?_eq`, `Decimal.add?_eq`).
-/

namespace TermStructure.Decimal

variable {b c d k m n p q r s : Nat} {x y : Decimal}

/-! ## Rounding -/

/-- Rounding does not lead past a whole number. -/
theorem roundDiv_le (hd : 0 < d) (h : n ≤ b * d) : roundDiv n d ≤ b := by
  have hn := Nat.div_add_mod n d
  have hle : n / d ≤ b := Nat.div_le_of_le_mul (by rwa [Nat.mul_comm])
  rw [roundDiv]
  split
  next hup =>
    -- Something is left over to be rounded up, so the quotient was less than the bound.
    refine Nat.lt_of_le_of_ne hle ?_
    rintro rfl
    have hrest : n % d = 0 := by
      rw [Nat.mul_comm] at h
      omega
    simp [roundsUp, hrest] at hup
    omega
  · exact hle

/-! ## Quotients -/

/-- One step of the long division multiplies what is represented by a power of ten. -/
theorem divideStep_eq (d p q r : Nat) :
    (q * 10 ^ p + r * 10 ^ p / d) * d + r * 10 ^ p % d = (q * d + r) * 10 ^ p := by
  have hsplit := Nat.div_add_mod (r * 10 ^ p) d
  calc (q * 10 ^ p + r * 10 ^ p / d) * d + r * 10 ^ p % d
      = q * 10 ^ p * d + (d * (r * 10 ^ p / d) + r * 10 ^ p % d) := by
        rw [Nat.add_mul, Nat.mul_comm (r * 10 ^ p / d), Nat.add_assoc]
    _ = (q * d + r) * 10 ^ p := by rw [hsplit, Nat.add_mul, Nat.mul_right_comm]

theorem divideFrom_le (hr : r < d) (h : q * d + r ≤ b * 10 ^ s * d) :
    (divideFrom d q r s).1 ≤ b * 10 ^ (divideFrom d q r s).2 := by
  fun_induction divideFrom d q r s with
  | case1 q s =>
    exact Nat.le_of_mul_le_mul_right (by omega) (Nat.lt_of_le_of_lt (Nat.zero_le _) hr)
  | case2 q r s hne hroom =>
    have hlt : q < b * 10 ^ s := Nat.lt_of_mul_lt_mul_right (a := d) (by omega)
    split
    · exact hlt
    · exact Nat.le_of_lt hlt
  | case3 q r s hne hroom p ih =>
    have hpos : 0 < d := Nat.lt_of_le_of_lt (Nat.zero_le _) hr
    refine ih (Nat.mod_lt _ hpos) ?_
    calc (q * 10 ^ p + r * 10 ^ p / d) * d + r * 10 ^ p % d
        = (q * d + r) * 10 ^ p := divideStep_eq d p q r
      _ ≤ b * 10 ^ s * d * 10 ^ p := Nat.mul_le_mul_right _ h
      _ = b * 10 ^ (s + p) * d := by rw [Nat.pow_add, Nat.mul_right_comm, Nat.mul_assoc b]

/-- Dropping zeros keeps the bound. -/
theorem div_pow_le (hk : k ≤ s) (h : q ≤ b * 10 ^ s) : q / 10 ^ k ≤ b * 10 ^ (s - k) := by
  refine Nat.div_le_of_le_mul ?_
  rwa [Nat.mul_left_comm, ← Nat.pow_add, Nat.add_sub_cancel' hk]

theorem dropEights_le (h : q ≤ b * 10 ^ s) : (dropEights q s).1 ≤ b * 10 ^ (dropEights q s).2 := by
  fun_induction dropEights q s with
  | case1 q s hzeros ih => exact ih (div_pow_le hzeros.1 h)
  | case2 q s _ => exact h

theorem dropZeros_le {x : Nat × Nat} (h : x.1 ≤ b * 10 ^ x.2) :
    (dropZeros k x).1 ≤ b * 10 ^ (dropZeros k x).2 := by
  rw [dropZeros]
  split
  next hzeros => exact div_pow_le hzeros.1 h
  · exact h

theorem quotient_le (hd : 0 < d) (h : n ≤ b * d) : (quotient n d).1 ≤ b * 10 ^ (quotient n d).2 := by
  have hdivide : (divideFrom d (n / d) (n % d) 0).1 ≤
      b * 10 ^ (divideFrom d (n / d) (n % d) 0).2 := by
    refine divideFrom_le (Nat.mod_lt _ hd) ?_
    rw [Nat.mul_comm, Nat.div_add_mod, Nat.pow_zero, Nat.mul_one]
    exact h
  exact dropZeros_le (dropZeros_le (dropZeros_le (dropEights_le hdivide)))

/-! ## Bounds -/

/-- A decimal from zero up to a whole number. -/
def AtMost (b : Nat) (x : Decimal) : Prop :=
  ∃ m : Nat, x.coefficient = m ∧ m ≤ b * 10 ^ x.scale

theorem atMost_zero : AtMost 0 zero :=
  ⟨0, rfl, Nat.zero_le _⟩

theorem AtMost.mono (h : AtMost b x) (hle : b ≤ c) : AtMost c x := by
  obtain ⟨m, hm, hb⟩ := h
  exact ⟨m, hm, Nat.le_trans hb (Nat.mul_le_mul_right _ hle)⟩

theorem divide_natCast (n d : Nat) : divide n d = ⟨(quotient n d).1, (quotient n d).2⟩ := by
  have hnot : ¬ (n : Int) < 0 := Int.not_lt.2 (Int.natCast_nonneg n)
  rw [divide, Int.natAbs_natCast]
  simp only [if_neg hnot]

theorem atMost_divide (hd : 0 < d) (h : n ≤ b * d) : AtMost b (divide n d) := by
  rw [divide_natCast]
  exact ⟨_, rfl, quotient_le hd h⟩

theorem excess_le (m fuel : Nat) : excess m fuel ≤ fuel := by
  induction fuel generalizing m with
  | zero => exact Nat.le_refl 0
  | succ fuel ih =>
    rw [excess]
    split
    · exact Nat.zero_le _
    · exact Nat.succ_le_succ (ih (m / 10))

theorem atMost_fit (h : m ≤ b * 10 ^ s) : AtMost b (fit m s) := by
  have hnot : ¬ (m : Int) < 0 := Int.not_lt.2 (Int.natCast_nonneg m)
  simp only [fit, Int.natAbs_natCast, if_neg hnot]
  split
  · exact ⟨m, rfl, h⟩
  · refine ⟨_, rfl, roundDiv_le (Nat.pow_pos (by decide)) ?_⟩
    change m ≤ b * 10 ^ (s - excess m s) * 10 ^ excess m s
    rwa [Nat.mul_assoc, ← Nat.pow_add, Nat.sub_add_cancel (excess_le m s)]

/-- The bound of a decimal holds at a larger scale. -/
theorem AtMost.rescaled (h : AtMost b x) (hs : x.scale ≤ s) :
    ∃ m : Nat, x.rescaled s = m ∧ m ≤ b * 10 ^ s := by
  obtain ⟨m, hm, hb⟩ := h
  refine ⟨m * 10 ^ (s - x.scale), ?_, ?_⟩
  · rw [Decimal.rescaled, hm, Int.natCast_mul, Int.natCast_pow]
    rfl
  · calc m * 10 ^ (s - x.scale)
        ≤ b * 10 ^ x.scale * 10 ^ (s - x.scale) := Nat.mul_le_mul_right _ hb
      _ = b * 10 ^ s := by rw [Nat.mul_assoc, ← Nat.pow_add, Nat.add_sub_cancel' hs]

/-- Both summands at their larger scale, and the bound of their sum there. -/
theorem AtMost.rescaled_add (hx : AtMost b x) (hy : AtMost c y) :
    ∃ m : Nat, x.rescaled (max x.scale y.scale) + y.rescaled (max x.scale y.scale) = m ∧
      m ≤ (b + c) * 10 ^ max x.scale y.scale := by
  obtain ⟨m, hm, hb⟩ := hx.rescaled (Nat.le_max_left x.scale y.scale)
  obtain ⟨n, hn, hc⟩ := hy.rescaled (Nat.le_max_right x.scale y.scale)
  refine ⟨m + n, by rw [hm, hn, Int.natCast_add], ?_⟩
  rw [Nat.add_mul]
  exact Nat.add_le_add hb hc

theorem AtMost.add (hx : AtMost b x) (hy : AtMost c y) : AtMost (b + c) (x + y) := by
  obtain ⟨m, hm, hle⟩ := hx.rescaled_add hy
  change AtMost (b + c) (Decimal.add x y)
  rw [Decimal.add]
  split
  · exact hy.mono (Nat.le_add_left c b)
  · split
    · exact hx.mono (Nat.le_add_right b c)
    · simp only [hm]
      exact atMost_fit hle

/-! ## Overflow -/

/-- A quotient, unless the divisor is zero or the quotient is greater than all decimals. -/
def divide? (n : Int) (d : Nat) : Option Decimal :=
  if d = 0 ∨ maxCoefficient * d < n.natAbs then none else some (divide n d)

/-- A sum, unless it is greater than all decimals. -/
def add? (x y : Decimal) : Option Decimal :=
  let scale := max x.scale y.scale
  if maxCoefficient * 10 ^ scale < (x.rescaled scale + y.rescaled scale).natAbs then none
  else some (x + y)

theorem divide?_eq {n : Int} (hd : 0 < d) (h : n.natAbs ≤ maxCoefficient) :
    divide? n d = some (divide n d) := by
  refine if_neg ?_
  have hle : maxCoefficient ≤ maxCoefficient * d := Nat.le_mul_of_pos_right _ hd
  omega

theorem add?_eq (hx : AtMost b x) (hy : AtMost c y) (h : b + c ≤ maxCoefficient) :
    add? x y = some (x + y) := by
  obtain ⟨m, hm, hle⟩ := hx.rescaled_add hy
  refine if_neg (Nat.not_lt.2 ?_)
  rw [hm, Int.natAbs_natCast]
  exact Nat.le_trans hle (Nat.mul_le_mul_right _ h)

end TermStructure.Decimal
