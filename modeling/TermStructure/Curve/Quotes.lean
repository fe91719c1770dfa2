import TermStructure.Table.Error
import TermStructure.Tenor.Order

/-!
# Quotes

A set of quotes gives a rate to each of some tenors. The tenors are distinct and ascending; a tenor
that is added twice is an error. Tenors of one length, such as `12M` and `1Y`, are distinct within a
set, but two sets have a tenor in common if the lengths agree.
-/

namespace TermStructure

/-- Rates by tenor, in ascending order of tenors. -/
structure Quotes where
  points : List (Tenor × Float)
  ascending : points.Pairwise fun p q => p.1 < q.1
deriving DecidableEq

namespace Quotes

def empty : Quotes := ⟨[], .nil⟩

/-- Puts a rate in its place among ascending tenors, unless the tenor is there. -/
def insert (tenor : Tenor) (rate : Float) :
    List (Tenor × Float) → Except StructureError (List (Tenor × Float))
  | [] => .ok [(tenor, rate)]
  | p :: rest =>
    match compare tenor p.1 with
    | .lt => .ok ((tenor, rate) :: p :: rest)
    | .eq => .error (.duplicateTenor tenor)
    | .gt =>
      match insert tenor rate rest with
      | .ok more => .ok (p :: more)
      | .error e => .error e

theorem mem_of_insert {tenor : Tenor} {rate : Float} {ps qs : List (Tenor × Float)}
    (h : insert tenor rate ps = .ok qs) {q : Tenor × Float} (hq : q ∈ qs) :
    q.1 = tenor ∨ q ∈ ps := by
  induction ps generalizing qs with
  | nil =>
    obtain rfl := Except.ok.inj h
    exact Or.inl (congrArg Prod.fst (List.mem_singleton.1 hq))
  | cons p rest ih =>
    rw [insert] at h
    split at h
    · obtain rfl := Except.ok.inj h
      rcases List.mem_cons.1 hq with rfl | hq
      · exact Or.inl rfl
      · exact Or.inr hq
    · simp at h
    · split at h
      next more hmore =>
        obtain rfl := Except.ok.inj h
        rcases List.mem_cons.1 hq with rfl | hq
        · exact Or.inr List.mem_cons_self
        · exact (ih hmore hq).imp_right (List.mem_cons_of_mem p)
      · simp at h

theorem ascending_insert {tenor : Tenor} {rate : Float} {ps qs : List (Tenor × Float)}
    (h : insert tenor rate ps = .ok qs) (hps : ps.Pairwise fun p q => p.1 < q.1) :
    qs.Pairwise fun p q => p.1 < q.1 := by
  induction ps generalizing qs with
  | nil =>
    obtain rfl := Except.ok.inj h
    exact List.pairwise_singleton _ _
  | cons p rest ih =>
    obtain ⟨hp, hrest⟩ := List.pairwise_cons.1 hps
    rw [insert] at h
    split at h
    next hlt =>
      have hlt' : tenor < p.1 := Tenor.lt_iff.2 (Tenor.compare_eq_lt_iff.1 hlt)
      obtain rfl := Except.ok.inj h
      refine List.pairwise_cons.2 ⟨fun q hq => ?_, hps⟩
      rcases List.mem_cons.1 hq with rfl | hq
      · exact hlt'
      · exact Tenor.lt_trans hlt' (hp q hq)
    · simp at h
    next hgt =>
      split at h
      next more hmore =>
        obtain rfl := Except.ok.inj h
        refine List.pairwise_cons.2 ⟨fun q hq => ?_, ih hmore hrest⟩
        rcases mem_of_insert hmore hq with heq | hq
        · rw [heq]
          exact Tenor.compare_eq_gt_iff.1 hgt
        · exact hp q hq
      · simp at h

def withRate (q : Quotes) (tenor : Tenor) (rate : Float) : Except StructureError Quotes :=
  match h : insert tenor rate q.points with
  | .ok points => .ok ⟨points, ascending_insert h q.ascending⟩
  | .error e => .error e

/-- Adds rates in order, up to the first tenor that is repeated. -/
def withRates (q : Quotes) : List (Tenor × Float) → Except StructureError Quotes
  | [] => .ok q
  | p :: rest =>
    match q.withRate p.1 p.2 with
    | .ok q => q.withRates rest
    | .error e => .error e

/-- The quotes of some rates in any order. -/
def ofPairs (pairs : List (Tenor × Float)) : Except StructureError Quotes :=
  empty.withRates pairs

def get? (q : Quotes) (tenor : Tenor) : Option Float :=
  (q.points.find? (·.1 == tenor)).map (·.2)

def contains (q : Quotes) (tenor : Tenor) : Bool :=
  q.points.any (·.1 == tenor)

def size (q : Quotes) : Nat :=
  q.points.length

def isEmpty (q : Quotes) : Bool :=
  q.points.isEmpty

/-- The tenors in ascending order. -/
def tenors (q : Quotes) : List Tenor :=
  q.points.map (·.1)

/-- The tenors whose length is that of a tenor of another set. -/
def commonTenors (q other : Quotes) : List Tenor :=
  q.tenors.filter fun t => other.tenors.any (·.sameLength t)

end Quotes

end TermStructure
