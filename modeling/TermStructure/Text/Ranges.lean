/-!
# Ranges of characters

Properties of characters are tables of inclusive ranges of code points in ascending order.
-/

namespace TermStructure.Text

/-- Whether a character is in one of some ranges. -/
def inRanges (ranges : List (Nat × Nat)) (c : Char) : Bool :=
  ranges.any fun r => r.1 ≤ c.toNat && c.toNat ≤ r.2

end TermStructure.Text
