import TermStructure.Text.Numeral

/-!
# Decimals of 96 bits

A decimal is an integer coefficient of at most 96 bits over a power of ten of at most 28. The scale
is part of the value: `0.5` and `0.50` differ as texts. Quotients are exact where the digits fit and
rounded to the nearest decimal, ties to even, where they do not. Sums are exact except where the
coefficient overflows.
-/

namespace TermStructure

/-- The number `coefficient / 10 ^ scale`. -/
structure Decimal where
  coefficient : Int
  scale : Nat
deriving DecidableEq, Repr

namespace Decimal

def maxCoefficient : Nat := 2 ^ 96 - 1

def maxScale : Nat := 28

/-- The greatest number of digits that one step of a division adds. -/
def stepDigits : Nat := 9

def zero : Decimal := ⟨0, 0⟩

instance : Inhabited Decimal := ⟨zero⟩

/-- A whole number, without places. -/
def ofInt (n : Int) : Decimal := ⟨n, 0⟩

/-! ## Rounding -/

/-- Whether `r / d`, a proper fraction above the whole number `q`, rounds up: above one half, or at
one half if `q` is odd. -/
def roundsUp (q r d : Nat) : Bool :=
  d < 2 * r || (2 * r == d && q % 2 == 1)

/-- The whole number nearest to `n / d`, ties to even. -/
def roundDiv (n d : Nat) : Nat :=
  if roundsUp (n / d) (n % d) d then n / d + 1 else n / d

/-! ## Quotients -/

/-- The greatest number of digits, at most the given one, that can be added to a coefficient. -/
def room (q : Nat) : Nat → Nat
  | 0 => 0
  | p + 1 => if q * 10 ^ (p + 1) ≤ maxCoefficient then p + 1 else room q p

theorem room_le (q p : Nat) : room q p ≤ p := by
  induction p with
  | zero => exact Nat.le_refl 0
  | succ p ih =>
    rw [room]
    split
    · exact Nat.le_refl _
    · exact Nat.le_succ_of_le ih

/-- Long division: `q` is the quotient so far with `s` places and `r` the remainder over `d`. Adds as
many digits as fit, a few at a time, and rounds the last one. -/
def divideFrom (d q r s : Nat) : Nat × Nat :=
  if r = 0 then (q, s)
  else if room q (min stepDigits (maxScale - s)) = 0 then
    (if roundsUp q r d then q + 1 else q, s)
  else
    let p := room q (min stepDigits (maxScale - s))
    divideFrom d (q * 10 ^ p + r * 10 ^ p / d) (r * 10 ^ p % d) (s + p)
termination_by maxScale - s
decreasing_by
  have := room_le q (min stepDigits (maxScale - s))
  omega

/-- Drops eight zeros at a time, as long as the low 32 bits of the coefficient are zero too. -/
def dropEights (q s : Nat) : Nat × Nat :=
  if h : 8 ≤ s ∧ q % 2 ^ 32 = 0 ∧ q % 10 ^ 8 = 0 then dropEights (q / 10 ^ 8) (s - 8) else (q, s)
termination_by s

/-- Drops `k` zeros if there are that many. -/
def dropZeros (k : Nat) (x : Nat × Nat) : Nat × Nat :=
  if k ≤ x.2 ∧ x.1 % 10 ^ k = 0 then (x.1 / 10 ^ k, x.2 - k) else x

/-- The quotient of two natural numbers as coefficient and scale. Some zeros at the end are dropped:
first by eights, then four, two and one. -/
def quotient (n d : Nat) : Nat × Nat :=
  let (q, s) := divideFrom d (n / d) (n % d) 0
  dropZeros 1 (dropZeros 2 (dropZeros 4 (dropEights q s)))

/-- The quotient of an integer and a positive number. -/
def divide (n : Int) (d : Nat) : Decimal :=
  let (q, s) := quotient n.natAbs d
  if n < 0 then ⟨-(q : Int), s⟩ else ⟨q, s⟩

/-! ## Sums -/

/-- The coefficient of a decimal at a scale that is no smaller than its own. -/
def rescaled (x : Decimal) (scale : Nat) : Int :=
  x.coefficient * 10 ^ (scale - x.scale)

/-- The least number of places to give up, at most the given ones, so that a coefficient fits. -/
def excess (m : Nat) : Nat → Nat
  | 0 => 0
  | fuel + 1 => if m ≤ maxCoefficient then 0 else excess (m / 10) fuel + 1

/-- The decimal of an integer that may not fit: as few places as needed are rounded away. A coefficient
`2 ^ 96 - 1` that rounds up would not fit again. No sum of the program gets there: sums are whole years, at most
524285, and two shares of a year, and these stay more than `10 ^ -7` away from `2 ^ 96` over a power of ten. -/
def fit (m : Int) (scale : Nat) : Decimal :=
  let drop := excess m.natAbs scale
  if drop = 0 then ⟨m, scale⟩
  else
    let q := roundDiv m.natAbs (10 ^ drop)
    ⟨if m < 0 then -(q : Int) else q, scale - drop⟩

/-- The sum at the larger scale; a zero leaves the other summand as it is. -/
def add (x y : Decimal) : Decimal :=
  if x.coefficient = 0 then y
  else if y.coefficient = 0 then x
  else
    let scale := max x.scale y.scale
    fit (x.rescaled scale + y.rescaled scale) scale

instance : Add Decimal := ⟨add⟩

/-- The decimal with at most `places` places, ties to even. What has no more places is kept as it is: nothing is
padded with zeros, a zero neither. -/
def roundPlaces (x : Decimal) (places : Nat) : Decimal :=
  if x.scale ≤ places then x
  else
    let q := roundDiv x.coefficient.natAbs (10 ^ (x.scale - places))
    ⟨if x.coefficient < 0 then -(q : Int) else q, places⟩

/-! ## Texts and doubles -/

/-- All digits of the whole part, and as many after the point as the scale says. -/
def text (x : Decimal) : String :=
  let m := x.coefficient.natAbs
  let sign := if x.coefficient < 0 then "-" else ""
  if x.scale = 0 then sign ++ toString m
  else sign ++ toString (m / 10 ^ x.scale) ++ "." ++ Numeral.padded x.scale (m % 10 ^ x.scale)

instance : ToString Decimal := ⟨text⟩

/-- `base ^ n` in doubles, by repeated squaring: `acc` is multiplied by the base at each bit of `n`
that is set. -/
def doublePower (acc base : Float) (n : Nat) : Float :=
  let acc := if n % 2 = 1 then acc * base else acc
  if h : n / 2 = 0 then acc else doublePower acc (base * base) (n / 2)
termination_by n
decreasing_by omega

/-- The double of a decimal. Whole part and fraction are converted apart, and their sum is rounded
to the decimal's places. -/
def toFloat (x : Decimal) : Float :=
  let m := x.coefficient.natAbs
  let whole := Float.ofNat (m / 10 ^ x.scale)
  let fraction := Float.ofNat (m % 10 ^ x.scale) / Float.ofNat (10 ^ x.scale)
  let magnitude :=
    if fraction == 0 then whole
    else
      let power := doublePower 1 10 x.scale
      ((whole + fraction) * power).round / power
  if x.coefficient < 0 then -magnitude else magnitude

end Decimal

end TermStructure
