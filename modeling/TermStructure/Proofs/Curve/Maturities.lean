import TermStructure.Proofs.Calendar.Adjust
import TermStructure.Proofs.Curve.Nodes

/-!
# Maturities

Nodes are in the order of their tenors. If the tenors count days, or all of them count months, the
maturities are in the same order (`CurveInput.maturities_sorted`): each step from a tenor to a maturity
is monotone on what the one before gives.
-/

namespace TermStructure.CurveInput

variable {i : CurveInput} {calendar : Calendar} {m n : CurveNode} {ns : List CurveNode}

/-- All quotes are for days and weeks, or all are for months and years. -/
def OneKind (i : CurveInput) : Prop :=
  (∀ q ∈ i.legs, q.tenor.unit.IsDays) ∨ ∀ q ∈ i.legs, q.tenor.unit.IsMonths

/-- A tenor that is no longer, of the same kind, has no later maturity. -/
theorem IsDated.maturity_le (hclosed : calendar.ClosedAtMost 300)
    (hunits : m.quote.tenor.unit.IsDays ∧ n.quote.tenor.unit.IsDays ∨
      m.quote.tenor.unit.IsMonths ∧ n.quote.tenor.unit.IsMonths)
    (hle : m.quote.tenor.length ≤ n.quote.tenor.length) (hm : i.IsDated calendar m)
    (hn : i.IsDated calendar n) : m.maturity ≤ n.maturity := by
  obtain ⟨⟨d, hd, hdm⟩, -⟩ := hm
  obtain ⟨⟨e, he, hen⟩, -⟩ := hn
  exact (Calendar.adjusted_of_adjust hdm).mono hclosed (Date.addTenor_mono hunits hle hd he)
    (Calendar.adjusted_of_adjust hen)

/-- The maturities of nodes are in order, on calendars that are not closed for more than 300 days in a
row. -/
theorem maturities_sorted {calendars : Registry} (hkind : i.OneKind)
    (hclosed : (calendars.resolve i.region).ClosedAtMost 300) (hns : i.nodes calendars = .ok ns) :
    ns.Pairwise fun m n => m.maturity ≤ n.maturity := by
  have hsorted := sortedNodes_of_nodes hns
  refine hsorted.sorted.imp_of_mem fun {m n} hm hn hle => ?_
  have hlegs : ∀ {n}, n ∈ ns → n.quote ∈ i.legs := fun hn =>
    hsorted.perm.mem_iff.1 (List.mem_map_of_mem hn)
  have hlength : m.quote.tenor.length ≤ n.quote.tenor.length := by
    rcases Tenor.le_iff.1 hle with hlt | ⟨heq, -⟩
    · exact hlt.le
    · exact heq.le
  refine (hsorted.dated m hm).maturity_le hclosed ?_ hlength (hsorted.dated n hn)
  rcases hkind with hdays | hmonths
  · exact Or.inl ⟨hdays _ (hlegs hm), hdays _ (hlegs hn)⟩
  · exact Or.inr ⟨hmonths _ (hlegs hm), hmonths _ (hlegs hn)⟩

/-- Quotes for Saturday 30 March 2024 and for Thursday 4 April. -/
def marchInput : CurveInput :=
  pairInput (.days 44) (.weeks 7)

/-- The cash quote is moved back to March, and the swap quote stays where it is. -/
theorem maturities_sorted_march :
    marchInput.OneKind ∧
    (Registry.empty.resolve marchInput.region).ClosedAtMost 300 ∧
    ∃ m n, marchInput.nodes .empty = .ok [m, n] ∧
      m.maturity = ⟨2024, 3, 29, by decide, by decide, by decide⟩ ∧
      n.maturity = ⟨2024, 4, 4, by decide, by decide, by decide⟩ ∧
      [m, n].Pairwise fun m n => m.maturity ≤ n.maturity := by
  have hkind : marchInput.OneKind := by
    refine Or.inl ?_
    simp only [marchInput, pairInput, legs, leg, quotesOf, List.map_cons, List.map_nil,
      List.cons_append, List.nil_append, List.forall_mem_cons]
    exact ⟨Or.inl rfl, Or.inr rfl, by simp⟩
  have hclosed : (Registry.empty.resolve marchInput.region).ClosedAtMost 300 :=
    Calendar.closedAtMost_weekendOnly.mono (by decide)
  have hns : marchInput.nodes .empty = .ok [
      marchInput.nodeAt ⟨.cash, .days 44, 0.01⟩
        ⟨2024, 3, 29, by decide, by decide, by decide⟩,
      marchInput.nodeAt ⟨.swap, .weeks 7, 0.02⟩
        ⟨2024, 4, 4, by decide, by decide, by decide⟩] := by
    refine (nodes_eq_ok_iff (apart_pairInput (by decide))).2 ⟨?_, List.Perm.refl _, ?_⟩
    · simp only [Ascending, List.map_cons, List.map_nil, List.pairwise_pair]
      decide
    · simp only [List.mem_cons, List.not_mem_nil, or_false, forall_eq_or_imp, forall_eq]
      exact ⟨⟨⟨_, rfl, rfl⟩, rfl⟩, ⟨_, rfl, rfl⟩, rfl⟩
  exact ⟨hkind, hclosed, _, _, hns, rfl, rfl, maturities_sorted hkind hclosed hns⟩

end TermStructure.CurveInput
