/-!
# Powers

Bounds of machine numbers and scales of decimals are powers such as `2 ^ 32` and `10 ^ n`. They are
the powers of Lean's own numbers in all modules, also where an import defines powers in any monoid.
-/

namespace TermStructure

/-- The power of a number, ahead of all other powers. -/
@[default_instance 20000]
instance (priority := 20000) numberPow {α : Type u} [NatPow α] : Pow α Nat := instPowNat

end TermStructure
