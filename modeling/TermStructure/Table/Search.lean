/-!
# Binary search

`partitionPoint p xs` is the number of elements in front that satisfy `p`, for an array in which all
elements that satisfy `p` stand in front of those that do not. It looks at logarithmically many
elements.
-/

namespace TermStructure.Search

/-- Binary search between two positions: everything before `lo` satisfies `p`, and nothing from `hi`
on does. -/
def partitionBetween {α : Type u} (p : α → Bool) (xs : Array α) (lo hi : Nat) (h : hi ≤ xs.size) :
    Nat :=
  if hlt : lo < hi then
    have hmid : (lo + hi) / 2 < xs.size := by omega
    if p xs[(lo + hi) / 2] then partitionBetween p xs ((lo + hi) / 2 + 1) hi h
    else partitionBetween p xs lo ((lo + hi) / 2) (by omega)
  else lo
termination_by hi - lo

/-- The position of the first element that does not satisfy `p`. -/
def partitionPoint {α : Type u} (p : α → Bool) (xs : Array α) : Nat :=
  partitionBetween p xs 0 xs.size (Nat.le_refl _)

end TermStructure.Search
