import TermStructure.Number.Power

/-!
# Shortest decimals of doubles

A finite double is `m * 2 ^ q`. Every real number between the midpoints to its two neighbours reads
back as that double, the midpoints themselves if `m` is even. `shortest` gives the decimal with the
fewest digits in that interval and, of those, the one nearest to the double. All comparisons are
made in whole numbers, scaled by a common denominator.
-/

namespace TermStructure.Shortest

/-- The parts of a finite double: `significand * 2 ^ exponent`. At a power of two the neighbour
below is only half as far away as the one above. -/
structure Parts where
  significand : Nat
  exponent : Int
  nearBelow : Bool
deriving DecidableEq, Repr

/-- The parts of the magnitude of a double, from its bits; nothing for infinities and NaN. -/
def Parts.ofBits? (bits : Nat) : Option Parts :=
  let field : Nat := bits / 2 ^ 52 % 2 ^ 11
  let fraction : Nat := bits % 2 ^ 52
  if field = 2047 then none
  else if field = 0 then some ⟨fraction, -1074, false⟩
  else some ⟨2 ^ 52 + fraction, (field : Int) - 1075, fraction == 0 && 1 < field⟩

/-- A value and the interval around it, as numerators over one denominator. -/
structure Interval where
  low : Nat
  value : Nat
  high : Nat
  denominator : Nat
  closed : Bool
deriving DecidableEq, Repr

/-- The interval of reals that read back as the double. A quarter of the unit in the last place is
the common measure: the midpoint above is two quarters away, the one below two or one. -/
def Parts.interval (p : Parts) : Interval :=
  let scale := 2 ^ p.exponent.toNat
  let below := if p.nearBelow then 1 else 2
  { low := (4 * p.significand - below) * scale
    value := 4 * p.significand * scale
    high := (4 * p.significand + 2) * scale
    denominator := 4 * 2 ^ (-p.exponent).toNat
    closed := p.significand % 2 = 0 }

/-- Whether the decimal `n * unit`, with `unit` a fraction `num / den`, lies in the interval. -/
def Interval.contains (i : Interval) (n num den : Nat) : Bool :=
  let x := n * num * i.denominator
  if i.closed then i.low * den ≤ x && x ≤ i.high * den else i.low * den < x && x < i.high * den

/-- How two decimals that are equally near to the value compete. -/
inductive Tie where
  | even
  | up
deriving DecidableEq, Repr

/-- The multiple of the unit in the interval that is nearest to the value, if there is one. Only
the two neighbours of the value on the grid can be. -/
def Interval.nearest? (i : Interval) (tie : Tie) (num den : Nat) : Option Nat :=
  let below := i.value * den / (num * i.denominator)
  let rest := i.value * den % (num * i.denominator)
  let downFits := i.contains below num den
  let upFits := i.contains (below + 1) num den
  let roundUp :=
    num * i.denominator < 2 * rest ||
      (2 * rest == num * i.denominator && (tie == .up || below % 2 == 1))
  if downFits && upFits then some (if roundUp then below + 1 else below)
  else if downFits then some below
  else if upFits then some (below + 1)
  else none

/-- Tries the units `10 ^ e` downwards from `10 ^ top`, and gives the first multiple found together
with its exponent. -/
def search (i : Interval) (tie : Tie) (top : Int) : Nat → Option (Nat × Int)
  | 0 => none
  | fuel + 1 =>
    match i.nearest? tie (10 ^ top.toNat) (10 ^ (-top).toNat) with
    | some n => some (n, top)
    | none => search i tie (top - 1) fuel

def width (n : Nat) : Nat :=
  (Nat.toDigits 10 n).length

/-- The shortest decimal `n * 10 ^ e` of a positive double. The search starts at a unit above the
value, where the first multiple in the interval has the fewest digits, and ends at seventeen
digits. -/
def ofParts (p : Parts) (tie : Tie) : Nat × Int :=
  let i := p.interval
  let top : Int := (width i.value : Int) - (width i.denominator : Int) + 1
  (search i tie top 20).getD (0, 0)

end TermStructure.Shortest
