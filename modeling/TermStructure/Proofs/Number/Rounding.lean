import Mathlib.Algebra.Order.Field.Basic
import Mathlib.Algebra.Order.Field.Rat
import Mathlib.Data.Rat.Cast.Order
import Mathlib.Tactic.Linarith
import Mathlib.Tactic.Ring
import TermStructure.Proofs.Number.Decimal

/-!
# Errors of decimals

A decimal stands for a rational number (`Decimal.value`), a multiple of its last place (`Decimal.place`). A
quotient of at most one is off by no more than half of the 28th place (`Decimal.divide_near`). A sum is exact
unless places are given up to fit its coefficient into 96 bits; then it is off by no more than half of its
last place, and a bound of the sum tells how many places are kept (`Decimal.add_near`). A decimal that is cut to
some places is the nearest one with so many places, and of two the even one (`Decimal.isRounded_iff`).
-/

namespace TermStructure.Decimal

variable {b c d k m n p q r s t : Nat} {x y : Decimal}

/-! ## Places -/

/-- The last one of some places after the point. -/
def place (s : Nat) : ℚ :=
  1 / (10 ^ s : Nat)

/-- The rational number of a decimal. -/
def value (x : Decimal) : ℚ :=
  x.coefficient * place x.scale

theorem place_pos (s : Nat) : 0 < place s := by
  have hpow : 0 < 10 ^ s := Nat.pow_pos (by decide)
  exact one_div_pos.2 (Nat.cast_pos.2 hpow)

theorem pow_ne_zero (s : Nat) : ((10 ^ s : Nat) : ℚ) ≠ 0 :=
  Nat.cast_ne_zero.2 (Nat.pos_iff_ne_zero.1 (Nat.pow_pos (by decide)))

theorem place_mul_pow (s k : Nat) : place (s + k) * (10 ^ k : Nat) = place s := by
  unfold place
  rw [Nat.pow_add, Nat.cast_mul, one_div_mul_eq_div, div_mul_cancel_right₀ (pow_ne_zero k), one_div]

theorem place_succ (s : Nat) : place (s + 1) * 10 = place s := by
  simpa using place_mul_pow s 1

theorem place_le (h : s ≤ t) : place t ≤ place s := by
  unfold place
  have hpow : 0 < 10 ^ s := Nat.pow_pos (by decide)
  exact one_div_le_one_div_of_le (Nat.cast_pos.2 hpow)
    (Nat.cast_le.2 (Nat.pow_le_pow_right (by decide) h))

/-! ## Rounding -/

/-- A whole number that is off from `n / d` by no more than a half. -/
def IsNearest (n d q : Nat) : Prop :=
  2 * n ≤ 2 * (q * d) + d ∧ 2 * (q * d) ≤ 2 * n + d

/-- Rounding up is for remainders of at least a half, and not rounding up for those of at most a half. -/
theorem isNearest_roundsUp (hr : r < d) :
    IsNearest (q * d + r) d (if roundsUp q r d then q + 1 else q) := by
  unfold IsNearest
  split
  next hup =>
    have hhalf : d ≤ 2 * r := by
      simp only [roundsUp, Bool.or_eq_true, decide_eq_true_iff, Bool.and_eq_true, beq_iff_eq] at hup
      omega
    rw [Nat.add_mul]
    omega
  next hdown =>
    have hhalf : 2 * r ≤ d := by
      simp only [roundsUp, Bool.or_eq_true, decide_eq_true_iff, not_or] at hdown
      omega
    omega

theorem isNearest_roundDiv (n : Nat) (hd : 0 < d) : IsNearest n d (roundDiv n d) := by
  have hnearest := isNearest_roundsUp (q := n / d) (Nat.mod_lt n hd)
  rw [Nat.mul_comm, Nat.div_add_mod] at hnearest
  exact hnearest

/-- Of two whole numbers that are equally near, the even one is taken. -/
theorem even_roundDiv (hd : 0 < d)
    (h : 2 * (roundDiv n d * d) = 2 * n + d ∨ 2 * n = 2 * (roundDiv n d * d) + d) :
    roundDiv n d % 2 = 0 := by
  have hlt := Nat.mod_lt n hd
  have hn := Nat.div_add_mod n d
  rw [Nat.mul_comm] at hn
  revert h
  unfold roundDiv
  split
  next hup =>
    simp only [roundsUp, Bool.or_eq_true, decide_eq_true_iff, Bool.and_eq_true, beq_iff_eq] at hup
    rw [Nat.add_mul]
    omega
  next hdown =>
    simp only [roundsUp, Bool.or_eq_true, decide_eq_true_iff, Bool.and_eq_true, beq_iff_eq, not_or,
      not_and] at hdown
    omega

theorem IsNearest.abs_sub_le (h : IsNearest n d q) (hd : 0 < d) : |(q : ℚ) - n / d| ≤ 1 / 2 := by
  have hpos : (0 : ℚ) < d := Nat.cast_pos.2 hd
  obtain ⟨hlow, hhigh⟩ := h
  have hlow' : 2 * (n : ℚ) ≤ 2 * (q * d) + d := by exact_mod_cast hlow
  have hhigh' : 2 * ((q : ℚ) * d) ≤ 2 * n + d := by exact_mod_cast hhigh
  rw [abs_le]
  constructor
  · rw [neg_le_sub_iff_le_add, div_le_iff₀ hpos]
    linarith
  · rw [sub_le_iff_le_add', ← sub_le_iff_le_add, le_div_iff₀ hpos]
    linarith

/-! ## Quotients -/

/-- There is room for a digit after a coefficient of no more than 27 places. -/
theorem room_pos (h : q * 10 ≤ maxCoefficient) (hp : 0 < p) : 0 < room q p := by
  induction p with
  | zero => exact absurd hp (Nat.lt_irrefl 0)
  | succ p ih =>
    rw [room]
    split
    · exact Nat.succ_pos p
    next hno =>
      refine ih (Nat.pos_of_ne_zero ?_)
      rintro rfl
      exact hno h

/-- A quotient of at most one, as coefficient and places: exact, or rounded at the 28th place. -/
def IsShare (n d : Nat) (x : Nat × Nat) : Prop :=
  x.2 ≤ maxScale ∧ (x.1 * d = n * 10 ^ x.2 ∨ x.2 = maxScale ∧ IsNearest (n * 10 ^ maxScale) d x.1)

/-- The quotient so far and the remainder always make up the dividend, at the places so far. -/
theorem isShare_divideFrom (hn : n ≤ d) (hr : r < d) (hs : s ≤ maxScale) (h : q * d + r = n * 10 ^ s) :
    IsShare n d (divideFrom d q r s) := by
  fun_induction divideFrom d q r s with
  | case1 q s => exact ⟨hs, Or.inl h⟩
  | case2 q r s hne hroom =>
    have hfull : s = maxScale := by
      by_contra hless
      have hq : q ≤ 10 ^ s := by
        refine Nat.le_of_mul_le_mul_right ?_ (Nat.lt_of_le_of_lt (Nat.zero_le r) hr)
        calc q * d ≤ n * 10 ^ s := h ▸ Nat.le_add_right _ _
          _ ≤ d * 10 ^ s := Nat.mul_le_mul_right _ hn
          _ = 10 ^ s * d := Nat.mul_comm _ _
      have hfits : q * 10 ≤ maxCoefficient := by
        calc q * 10 ≤ 10 ^ s * 10 := Nat.mul_le_mul_right _ hq
          _ = 10 ^ (s + 1) := (Nat.pow_succ ..).symm
          _ ≤ 10 ^ maxScale := Nat.pow_le_pow_right (by decide) (by omega)
          _ ≤ maxCoefficient := by decide
      have hpos := room_pos hfits (p := min stepDigits (maxScale - s)) (by rw [stepDigits]; omega)
      omega
    subst hfull
    refine ⟨Nat.le_refl _, Or.inr ⟨rfl, ?_⟩⟩
    rw [← h]
    exact isNearest_roundsUp hr
  | case3 q r s hne hroom p ih =>
    have hp : p ≤ maxScale - s := (room_le q _).trans (Nat.min_le_right _ _)
    refine ih (Nat.mod_lt _ (Nat.lt_of_le_of_lt (Nat.zero_le r) hr)) (by omega) ?_
    calc (q * 10 ^ p + r * 10 ^ p / d) * d + r * 10 ^ p % d
        = (q * d + r) * 10 ^ p := divideStep_eq d p q r
      _ = n * 10 ^ (s + p) := by rw [h, Nat.pow_add, Nat.mul_assoc]

theorem IsShare.abs_sub_le {x : Nat × Nat} (h : IsShare n d x) (hd : 0 < d) :
    |value ⟨x.1, x.2⟩ - n / d| ≤ 1 / 2 * place maxScale := by
  obtain ⟨q, s⟩ := x
  have hpos : (d : ℚ) ≠ 0 := Nat.cast_ne_zero.2 (Nat.pos_iff_ne_zero.1 hd)
  have hplace := place_pos maxScale
  -- The exact quotient in units of the last place.
  have hunits : ∀ s, (n : ℚ) / d = (n * 10 ^ s : Nat) / d * place s := fun s => by
    rw [place, Nat.cast_mul, div_mul_div_comm, mul_one, mul_div_mul_right _ _ (pow_ne_zero s)]
  rw [hunits s]
  show |((q : Int) : ℚ) * place s - _| ≤ _
  rw [Int.cast_natCast, ← sub_mul, abs_mul, abs_of_pos (place_pos s)]
  obtain ⟨hs, hexact | ⟨hfull, hnearest⟩⟩ := h
  · have hzero : (q : ℚ) - (n * 10 ^ s : Nat) / d = 0 := by
      rw [← hexact, Nat.cast_mul, mul_div_cancel_right₀ _ hpos, sub_self]
    rw [hzero, abs_zero, zero_mul]
    linarith
  · obtain rfl : s = maxScale := hfull
    exact mul_le_mul_of_nonneg_right (hnearest.abs_sub_le hd) hplace.le

/-- Zeros at the end do not count. -/
theorem value_div_pow (hk : k ≤ s) (h : q % 10 ^ k = 0) :
    value ⟨(q / 10 ^ k : Nat), s - k⟩ = value ⟨q, s⟩ := by
  obtain ⟨j, rfl⟩ := Nat.exists_eq_add_of_le' hk
  have hq : (q / 10 ^ k : Nat) * 10 ^ k = q := Nat.div_mul_cancel (Nat.dvd_of_mod_eq_zero h)
  have hcast : (q : ℚ) = (q / 10 ^ k : Nat) * (10 ^ k : Nat) := by rw [← Nat.cast_mul, hq]
  simp only [value, Int.cast_natCast, Nat.add_sub_cancel, hcast, ← place_mul_pow j k]
  ring

theorem value_dropEights (q s : Nat) :
    value ⟨(dropEights q s).1, (dropEights q s).2⟩ = value ⟨q, s⟩ ∧ (dropEights q s).2 ≤ s := by
  fun_induction dropEights q s with
  | case1 q s hzeros ih =>
    exact ⟨ih.1.trans (value_div_pow hzeros.1 hzeros.2.2), ih.2.trans (Nat.sub_le s 8)⟩
  | case2 q s _ => exact ⟨rfl, Nat.le_refl s⟩

theorem value_dropZeros (k : Nat) (x : Nat × Nat) :
    value ⟨(dropZeros k x).1, (dropZeros k x).2⟩ = value ⟨x.1, x.2⟩ ∧ (dropZeros k x).2 ≤ x.2 := by
  unfold dropZeros
  split
  next hzeros => exact ⟨value_div_pow hzeros.1 hzeros.2, Nat.sub_le x.2 k⟩
  · exact ⟨rfl, Nat.le_refl x.2⟩

/-- A quotient of at most one is off by no more than half of the 28th place. -/
theorem divide_near (hd : 0 < d) (hn : n ≤ d) :
    |(divide n d).value - n / d| ≤ 1 / 2 * place maxScale ∧ (divide n d).scale ≤ maxScale := by
  have hshare : IsShare n d (divideFrom d (n / d) (n % d) 0) := by
    refine isShare_divideFrom hn (Nat.mod_lt n hd) (Nat.zero_le _) ?_
    rw [Nat.mul_comm, Nat.div_add_mod, Nat.pow_zero, Nat.mul_one]
  have hnear := hshare.abs_sub_le hd
  have hscale := hshare.1
  rw [divide_natCast, quotient]
  generalize divideFrom d (n / d) (n % d) 0 = x at hnear hscale
  obtain ⟨q, s⟩ := x
  obtain ⟨hvalue, hle⟩ := value_dropEights q s
  obtain ⟨hvalue4, hle4⟩ := value_dropZeros 4 (dropEights q s)
  obtain ⟨hvalue2, hle2⟩ := value_dropZeros 2 (dropZeros 4 (dropEights q s))
  obtain ⟨hvalue1, hle1⟩ := value_dropZeros 1 (dropZeros 2 (dropZeros 4 (dropEights q s)))
  refine ⟨?_, hle1.trans (hle2.trans (hle4.trans (hle.trans hscale)))⟩
  show |value ⟨(dropZeros 1 (dropZeros 2 (dropZeros 4 (dropEights q s)))).1, _⟩ - _| ≤ _
  rw [hvalue1, hvalue2, hvalue4, hvalue]
  exact hnear

/-! ## Sums -/

theorem excess_le_of_div_le (h : m / 10 ^ k ≤ maxCoefficient) (fuel : Nat) : excess m fuel ≤ k := by
  induction k generalizing m fuel with
  | zero =>
    rw [Nat.pow_zero, Nat.div_one] at h
    cases fuel with
    | zero => exact Nat.le_refl 0
    | succ fuel => rw [excess, if_pos h]
  | succ k ih =>
    cases fuel with
    | zero => exact Nat.zero_le _
    | succ fuel =>
      rw [excess]
      split
      · exact Nat.zero_le _
      · refine Nat.succ_le_succ (ih ?_ fuel)
        rwa [Nat.div_div_eq_div_mul, Nat.mul_comm, ← Nat.pow_succ]

/-- A coefficient that is rounded by some places is off by no more than half of the last place that is left. -/
theorem value_roundDiv (m : Nat) (hk : k ≤ s) :
    |value ⟨roundDiv m (10 ^ k), s - k⟩ - m * place s| ≤ 1 / 2 * place (s - k) := by
  obtain ⟨j, rfl⟩ := Nat.exists_eq_add_of_le' hk
  have hnearest := (isNearest_roundDiv m (Nat.pow_pos (by decide) : 0 < 10 ^ k)).abs_sub_le
    (Nat.pow_pos (by decide))
  have hplace : (m : ℚ) * place (j + k) = m / (10 ^ k : Nat) * place j := by
    rw [← place_mul_pow j k, mul_comm (place _), ← mul_assoc, div_mul_cancel₀ _ (pow_ne_zero k)]
  rw [Nat.add_sub_cancel, hplace]
  show |((roundDiv m (10 ^ k) : Int) : ℚ) * place j - _| ≤ _
  rw [Int.cast_natCast, ← sub_mul, abs_mul, abs_of_pos (place_pos j)]
  exact mul_le_mul_of_nonneg_right hnearest (place_pos j).le

/-- What has to be rounded to fit keeps as many places as its bound leaves room for. -/
theorem fit_near (h : m ≤ b * 10 ^ s) (hb : b * 10 ^ t ≤ maxCoefficient) :
    fit m s = ⟨m, s⟩ ∨ t ≤ (fit m s).scale ∧ (fit m s).scale < s ∧
      |(fit m s).value - m * place s| ≤ 1 / 2 * place (fit m s).scale := by
  have hnot : ¬ (m : Int) < 0 := Int.not_lt.2 (Int.natCast_nonneg m)
  simp only [fit, Int.natAbs_natCast, if_neg hnot]
  have hle := excess_le m s
  have hroom : excess m s ≤ s - t := by
    refine excess_le_of_div_le (Nat.le_trans (Nat.div_le_of_le_mul ?_) hb) s
    calc m ≤ b * 10 ^ s := h
      _ ≤ b * 10 ^ (t + (s - t)) := Nat.mul_le_mul_left _ (Nat.pow_le_pow_right (by decide) (by omega))
      _ = 10 ^ (s - t) * (b * 10 ^ t) := by rw [Nat.pow_add, ← Nat.mul_assoc, Nat.mul_comm]
  by_cases hdrop : excess m s = 0
  · exact Or.inl (if_pos hdrop)
  · rw [if_neg hdrop]
    refine Or.inr ⟨?_, ?_, value_roundDiv m hle⟩
    · show t ≤ s - excess m s
      omega
    · show s - excess m s < s
      omega

theorem value_rescaled (x : Decimal) (h : x.scale ≤ s) : (x.rescaled s : ℚ) * place s = x.value := by
  obtain ⟨k, rfl⟩ := Nat.exists_eq_add_of_le h
  rw [rescaled, value, Nat.add_sub_cancel_left, ← place_mul_pow x.scale k]
  push_cast
  ring

/-- A sum is exact, or it is off by no more than half of its last place and keeps as many places as the bounds
of the summands leave room for. -/
theorem add_near (hx : AtMost b x) (hy : AtMost c y) (hbound : (b + c) * 10 ^ t ≤ maxCoefficient) :
    (x + y).scale ≤ max x.scale y.scale ∧ ((x + y).value = x.value + y.value ∨
      t ≤ (x + y).scale ∧ (x + y).scale < max x.scale y.scale ∧
        |(x + y).value - (x.value + y.value)| ≤ 1 / 2 * place (x + y).scale) := by
  show (add x y).scale ≤ _ ∧ ((add x y).value = _ ∨ t ≤ (add x y).scale ∧ (add x y).scale < _ ∧
    |(add x y).value - _| ≤ 1 / 2 * place (add x y).scale)
  have hzero : ∀ z : Decimal, z.coefficient = 0 → z.value = 0 := fun z hz => by
    rw [value, hz, Int.cast_zero, zero_mul]
  unfold add
  by_cases hxzero : x.coefficient = 0
  · rw [if_pos hxzero, hzero x hxzero, zero_add]
    exact ⟨Nat.le_max_right _ _, Or.inl rfl⟩
  rw [if_neg hxzero]
  by_cases hyzero : y.coefficient = 0
  · rw [if_pos hyzero, hzero y hyzero, add_zero]
    exact ⟨Nat.le_max_left _ _, Or.inl rfl⟩
  rw [if_neg hyzero]
  obtain ⟨m, hm, hle⟩ := hx.rescaled_add hy
  have hsum : (m : ℚ) * place (max x.scale y.scale) = x.value + y.value := by
    rw [← value_rescaled x (Nat.le_max_left x.scale y.scale),
      ← value_rescaled y (Nat.le_max_right x.scale y.scale), ← add_mul, ← Int.cast_add, hm,
      Int.cast_natCast]
  simp only [hm, ← hsum]
  rcases fit_near hle hbound with hfit | ⟨hplaces, hscale, hnear⟩
  · rw [hfit]
    exact ⟨Nat.le_refl _, Or.inl rfl⟩
  · exact ⟨hscale.le, Or.inr ⟨hplaces, hscale, hnear⟩⟩

/-! ## Totals -/

theorem quotient_mul (q : Nat) (hd : 0 < d) : quotient (q * d) d = (q, 0) := by
  have hzeros : ∀ k, 0 < k → dropZeros k (q, 0) = (q, 0) := fun k hk => by
    rw [dropZeros, if_neg]
    exact fun h => Nat.not_le.2 hk h.1
  have heights : dropEights q 0 = (q, 0) := by
    rw [dropEights, dif_neg]
    exact fun h => absurd h.1 (by decide)
  rw [quotient, Nat.mul_div_cancel _ hd, Nat.mul_mod_left, divideFrom, if_pos rfl]
  show dropZeros 1 (dropZeros 2 (dropZeros 4 (dropEights q 0))) = _
  rw [heights, hzeros 4 (by decide), hzeros 2 (by decide), hzeros 1 (by decide)]

/-- Division by a divisor leaves no places. -/
theorem divide_mul (q : Nat) (hd : 0 < d) : divide (q * d : Nat) d = ofInt q := by
  rw [divide_natCast, quotient_mul q hd]
  rfl

protected theorem zero_add (x : Decimal) : zero + x = x := by
  change add zero x = x
  exact if_pos rfl

/-- Whole numbers without places have a sum without places. -/
theorem ofInt_add_ofInt (m n : Int) : ofInt m + ofInt n = ofInt (m + n) := by
  have hplaces : (ofInt m).rescaled 0 + (ofInt n).rescaled 0 = m + n := by
    simp [rescaled, ofInt]
  change add (ofInt m) (ofInt n) = ofInt (m + n)
  unfold add
  split
  next hm =>
    obtain rfl : m = 0 := hm
    rw [Int.zero_add]
  next =>
    split
    next hn =>
      obtain rfl : n = 0 := hn
      rw [Int.add_zero]
    next =>
      show fit ((ofInt m).rescaled 0 + (ofInt n).rescaled 0) 0 = _
      rw [hplaces]
      rfl

/-- A total that is off by no more than its last place, or than the place `t` if it has fewer. -/
def Near (t : Nat) (x : Decimal) (v : ℚ) : Prop :=
  |x.value - v| ≤ place (max x.scale t)

variable {v w : ℚ}

theorem value_zero : zero.value = 0 := by
  rw [value]
  simp [zero]

theorem near_zero (t : Nat) : Near t zero 0 := by
  rw [Near, value_zero, sub_zero, abs_zero]
  exact (place_pos _).le

theorem near_divide (hd : 0 < d) (hn : n ≤ d) (ht : t ≤ maxScale) : Near t (divide n d) (n / d) := by
  obtain ⟨hnear, hscale⟩ := divide_near hd hn
  have hle : place maxScale ≤ place (max (divide n d).scale t) := place_le (Nat.max_le.2 ⟨hscale, ht⟩)
  rw [Near]
  linarith [place_pos maxScale]

/-- A whole number can be added without end: when a place is given up, the error in units of the last place
shrinks to a tenth before the rounding adds a half. -/
theorem Near.add_one (h : Near t x v) (hx : AtMost b x) (hb : (b + 1) * 10 ^ t ≤ maxCoefficient) :
    Near t (x + ofInt 1) (v + 1) := by
  have hone : AtMost 1 (ofInt 1) := ⟨1, rfl, Nat.le_refl 1⟩
  have hvalue : (ofInt 1).value = 1 := by
    rw [value]
    simp [ofInt, place]
  obtain ⟨hscale, hsum⟩ := add_near hx hone hb
  rw [hvalue] at hsum
  rw [show max x.scale (ofInt 1).scale = x.scale from Nat.max_zero _] at hscale hsum
  unfold Near at *
  rcases hsum with hexact | ⟨hplaces, hless, hnear⟩
  · rw [hexact, add_sub_add_right_eq_sub]
    exact h.trans (place_le (by omega))
  · have hlast : max (x + ofInt 1).scale t = (x + ofInt 1).scale := Nat.max_eq_left hplaces
    rw [hlast]
    generalize (x + ofInt 1).scale = s at *
    have hshrunk : place (max x.scale t) ≤ place (s + 1) := place_le (by omega)
    have hten := place_succ s
    have hsplit := abs_sub_le (x + ofInt 1).value (x.value + 1) (v + 1)
    rw [add_sub_add_right_eq_sub] at hsplit
    linarith [place_pos (s + 1)]

/-- After a last share, which is off by half of the 28th place, the sum is off by two units of place `t`. -/
theorem Near.abs_add_sub_le (h : Near t x v) (hx : AtMost b x) (hy : AtMost c y)
    (hb : (b + c) * 10 ^ t ≤ maxCoefficient) (ht : t ≤ maxScale)
    (hw : |y.value - w| ≤ 1 / 2 * place maxScale) : |(x + y).value - (v + w)| ≤ 2 * place t := by
  have hfirst : |x.value - v| ≤ place t := h.trans (place_le (Nat.le_max_right _ _))
  have hsecond : |y.value - w| ≤ 1 / 2 * place t := by
    have hle := place_le ht
    linarith
  have hadd : |(x + y).value - (x.value + y.value)| ≤ 1 / 2 * place t := by
    rcases (add_near hx hy hb).2 with hexact | ⟨hplaces, -, hnear⟩
    · rw [hexact, sub_self, abs_zero]
      linarith [place_pos t]
    · have hle := place_le hplaces
      linarith
  have hsummands : |x.value + y.value - (v + w)| ≤ |x.value - v| + |y.value - w| := by
    rw [add_sub_add_comm]
    exact abs_add_le _ _
  have hsplit := abs_sub_le (x + y).value (x.value + y.value) (v + w)
  linarith

/-! ## Fewer places -/

variable {z : Decimal} {places : Nat}

/-- How far a decimal is from one with fewer places, in units of its own last place. -/
def distance (x y : Decimal) : Nat :=
  (y.coefficient * (10 ^ (x.scale - y.scale) : Nat) - x.coefficient).natAbs

/-- The nearest decimal with at most some places; of two that are equally near, the even one. -/
structure IsRounded (x : Decimal) (places : Nat) (y : Decimal) : Prop where
  scale : y.scale = min x.scale places
  near : 2 * distance x y ≤ 10 ^ (x.scale - y.scale)
  even : 2 * distance x y = 10 ^ (x.scale - y.scale) → y.coefficient % 2 = 0

theorem isRounded_self (h : x.scale ≤ places) : IsRounded x places x := by
  have hself : distance x x = 0 := by simp [distance]
  refine ⟨(Nat.min_eq_left h).symm, ?_, ?_⟩
  · rw [hself]
    exact Nat.zero_le _
  · rw [hself, Nat.sub_self]
    intro h
    exact absurd h (by decide)

theorem isRounded_roundPlaces (x : Decimal) (places : Nat) : IsRounded x places (x.roundPlaces places) := by
  unfold roundPlaces
  by_cases hscale : x.scale ≤ places
  · rw [if_pos hscale]
    exact isRounded_self hscale
  · rw [if_neg hscale]
    have hd : 0 < 10 ^ (x.scale - places) := Nat.pow_pos (by decide)
    have hnear := isNearest_roundDiv x.coefficient.natAbs hd
    have heven := even_roundDiv (n := x.coefficient.natAbs) hd
    unfold IsNearest at hnear
    have hmin : places = min x.scale places := (Nat.min_eq_right (Nat.le_of_not_le hscale)).symm
    show IsRounded x places ⟨if x.coefficient < 0 then
      -(roundDiv x.coefficient.natAbs (10 ^ (x.scale - places)) : Int)
      else roundDiv x.coefficient.natAbs (10 ^ (x.scale - places)), places⟩
    refine ⟨hmin, ?_, ?_⟩
    all_goals
      simp only [distance]
      generalize 10 ^ (x.scale - places) = d at *
      generalize roundDiv x.coefficient.natAbs d = q at *
      have hcast : ((q * d : Nat) : Int) = q * d := Int.natCast_mul q d
      split
      · rw [Int.neg_mul]
        omega
      · omega

/-- Two decimals that both are nearest differ in nothing but their last place, by one, and are halfway off: only
one of them is even. -/
theorem IsRounded.not_lt (hy : IsRounded x places y) (hz : IsRounded x places z) :
    ¬ y.coefficient < z.coefficient := by
  intro hlt
  have hynear := hy.near
  have hyeven := hy.even
  have hznear := hz.near
  have hzeven := hz.even
  have hscale : z.scale = y.scale := hz.scale.trans hy.scale.symm
  unfold distance at hynear hyeven hznear hzeven
  rw [hscale] at hznear hzeven
  have hd : 0 < 10 ^ (x.scale - y.scale) := Nat.pow_pos (by decide)
  generalize 10 ^ (x.scale - y.scale) = d at *
  obtain ⟨k, hk⟩ := Int.le.dest hlt
  have hsplit : z.coefficient * d = y.coefficient * d + d + k * d := by
    rw [← hk]
    ring
  cases k with
  | zero =>
    rw [Int.ofNat_zero, Int.zero_mul] at hsplit
    omega
  | succ k =>
    have hmore : (0 : Int) < (k + 1 : Nat) * d := by positivity
    omega

/-- There is one such decimal only. -/
theorem isRounded_iff : IsRounded x places y ↔ y = x.roundPlaces places := by
  have hrounded := isRounded_roundPlaces x places
  constructor
  · intro h
    have hcoefficient : y.coefficient = (x.roundPlaces places).coefficient :=
      le_antisymm (not_lt.1 (hrounded.not_lt h)) (not_lt.1 (h.not_lt hrounded))
    have hscale : y.scale = (x.roundPlaces places).scale := h.scale.trans hrounded.scale.symm
    cases y
    exact congrArg₂ Decimal.mk hcoefficient hscale
  · intro h
    rw [h]
    exact hrounded

/-- A zero without places has none afterwards, and what rounds to zero keeps the places it is rounded to. -/
example : [zero, ⟨-28, 4⟩].map (·.roundPlaces 1) = [zero, ⟨0, 1⟩] := by decide

end TermStructure.Decimal
