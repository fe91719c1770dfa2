import TermStructure.Command.Curve
import TermStructure.Proofs.Calendar.Registry
import TermStructure.Proofs.Curve.Input
import TermStructure.Proofs.Outcome

/-!
# Curve nodes

The nodes of an input are its quotes, dated and in strict order of tenors; the order is strict since no
length is quoted twice. They fail where the first quote does that cannot be dated, in the order of the
legs and not of the tenors (`dated_nodes`). The quotes alone are listed in the same order.
-/

namespace TermStructure

namespace CurveInput

variable {i : CurveInput} {calendar : Calendar} {q : Quote} {qs : List Quote} {n : CurveNode}
  {ns ms : List CurveNode} {v : ValueError} {e : StructureError}

/-! ## Dating a quote -/

/-- A node has the maturity of its quote, and the year fraction up to it in the day count of its
instrument. -/
def IsDated (i : CurveInput) (calendar : Calendar) (n : CurveNode) : Prop :=
  (∃ d, i.spotDate.addTenor n.quote.tenor = .ok d ∧
    calendar.adjust d i.convention = .ok n.maturity) ∧
  n.yearFraction = (i.dayCountOf n.quote.instrument).yearFraction i.spotDate n.maturity

/-- The spot date cannot be moved by the tenor of a quote, or not be adjusted after it was. -/
def Undatable (i : CurveInput) (calendar : Calendar) (q : Quote) (v : ValueError) : Prop :=
  i.spotDate.addTenor q.tenor = .error v ∨
    ∃ d, i.spotDate.addTenor q.tenor = .ok d ∧ calendar.adjust d i.convention = .error v

theorem maturity_eq_ok_iff {t : Tenor} {m : Date} : i.maturity calendar t = .ok m ↔
    ∃ d, i.spotDate.addTenor t = .ok d ∧ calendar.adjust d i.convention = .ok m := by
  rw [maturity]
  cases i.spotDate.addTenor t with
  | error v => simp
  | ok d => simp

theorem maturity_eq_error_iff : i.maturity calendar q.tenor = .error v ↔ i.Undatable calendar q v := by
  rw [maturity, Undatable]
  cases i.spotDate.addTenor q.tenor with
  | error v' => simp
  | ok d => simp

theorem node_eq_ok_iff : i.node calendar q = .ok n ↔ n.quote = q ∧ i.IsDated calendar n := by
  obtain ⟨q', m, x⟩ := n
  rw [node, IsDated, ← maturity_eq_ok_iff]
  constructor
  · intro h
    cases hm : i.maturity calendar q.tenor with
    | error v => simp [hm] at h
    | ok m' =>
      simp only [hm, Except.ok.injEq, CurveNode.mk.injEq] at h
      obtain ⟨rfl, rfl, rfl⟩ := h
      exact ⟨rfl, hm, rfl⟩
  · rintro ⟨rfl, hm, hx⟩
    simp only at hm hx ⊢
    rw [hm, hx]

theorem node_eq_error_iff :
    i.node calendar q = .error e ↔ ∃ v, e = .value v ∧ i.Undatable calendar q v := by
  simp only [← maturity_eq_error_iff, node]
  cases i.maturity calendar q.tenor with
  | error v => simp [eq_comm]
  | ok m => simp

/-! ## Dating quotes in order -/

theorem traverses_nodesOf (i : CurveInput) (calendar : Calendar) :
    Outcome.Traverses (i.node calendar) (i.nodesOf calendar) where
  nil := rfl
  cons q qs := by
    rw [nodesOf]
    cases i.node calendar q with
    | error e => rfl
    | ok n => cases i.nodesOf calendar qs <;> rfl

theorem nodesOf_eq_ok_iff : i.nodesOf calendar qs = .ok ns ↔
    ns.map CurveNode.quote = qs ∧ ∀ n ∈ ns, i.IsDated calendar n :=
  (traverses_nodesOf i calendar).eq_ok_iff_map fun _ _ => node_eq_ok_iff

/-- There is a node for a quote. -/
def Datable (i : CurveInput) (calendar : Calendar) (q : Quote) : Prop :=
  ∃ n : CurveNode, n.quote = q ∧ i.IsDated calendar n

theorem not_datable_iff : ¬ i.Datable calendar q ↔ ∃ v, i.Undatable calendar q v := by
  simp only [Datable, ← node_eq_ok_iff, ← maturity_eq_error_iff, node]
  cases i.maturity calendar q.tenor with
  | error v => simp
  | ok m => simp

theorem Undatable.not_datable (h : i.Undatable calendar q v) : ¬ i.Datable calendar q :=
  not_datable_iff.2 ⟨v, h⟩

theorem nodesOf_eq_error_iff : i.nodesOf calendar qs = .error e ↔
    ∃ v, e = .value v ∧ FirstOf (i.Datable calendar) (fun q => i.Undatable calendar q v) qs := by
  have hgood : ∀ q, (∃ n, i.node calendar q = .ok n) ↔ i.Datable calendar q :=
    fun q => exists_congr fun n => node_eq_ok_iff
  rw [(traverses_nodesOf i calendar).eq_error_iff]
  constructor
  · rintro ⟨before, q, after, heq, hbefore, hq⟩
    obtain ⟨v, he, hv⟩ := node_eq_error_iff.1 hq
    exact ⟨v, he, before, q, after, heq, fun p hp => (hgood p).1 (hbefore p hp), hv⟩
  · rintro ⟨v, rfl, hfirst⟩
    exact hfirst.imp (fun q => (hgood q).2) fun q hv => node_eq_error_iff.2 ⟨v, rfl, hv⟩

/-! ## Quotes in order -/

theorem tenors_leg (i : CurveInput) (instrument : Instrument) :
    (i.leg instrument).map Quote.tenor = (i.quotesOf instrument).tenors := by
  simp [leg, Quotes.tenors]

/-- No tenor is quoted twice. -/
theorem nodup_tenors_legs (h : Quotes.Apart i.cash i.swap) : (i.legs.map Quote.tenor).Nodup := by
  rw [legs, List.map_append, tenors_leg, tenors_leg, List.nodup_append]
  refine ⟨i.cash.pairwise_tenors.imp ne_of_lt, i.swap.pairwise_tenors.imp ne_of_lt, ?_⟩
  rintro t ht u hu rfl
  exact h t ht t hu rfl

/-- Quotes in strict order of tenors. -/
def Ascending (qs : List Quote) : Prop :=
  qs.Pairwise fun a b => a.tenor < b.tenor

theorem Ascending.eq_of_perm {qs rs : List Quote} (hqs : Ascending qs) (hrs : Ascending rs)
    (hperm : qs.Perm rs) : qs = rs :=
  hperm.eq_of_pairwise (fun _ _ _ _ hab hba => absurd hab (lt_asymm hba)) hqs hrs

/-- Sorting quotes of distinct tenors gives the one strict order. -/
theorem ascending_of_sorted (hle : qs.Pairwise fun a b => a.tenor ≤ b.tenor)
    (hnodup : (qs.map Quote.tenor).Nodup) : Ascending qs := by
  rw [List.nodup_iff_pairwise_ne, List.pairwise_map] at hnodup
  exact (hle.and hnodup).imp fun h => lt_of_le_of_ne h.1 h.2

theorem pairwise_mergeSort_tenor {α : Type} (f : α → Quote) (xs : List α) :
    (xs.mergeSort fun a b => (f a).tenorLe (f b)).Pairwise fun a b => (f a).tenor ≤ (f b).tenor := by
  refine List.pairwise_mergeSort ?_ ?_ xs
  · intro a b c hab hbc
    exact le_trans (α := Tenor) hab hbc
  · intro a b
    rw [Bool.or_eq_true]
    exact le_total (α := Tenor) (f a).tenor (f b).tenor

/-- Nodes are told by their quotes. -/
theorem eq_of_quotes_eq (hns : ∀ n ∈ ns, i.IsDated calendar n) (hms : ∀ n ∈ ms, i.IsDated calendar n)
    (heq : ns.map CurveNode.quote = ms.map CurveNode.quote) : ns = ms :=
  Except.ok.inj ((nodesOf_eq_ok_iff.2 ⟨heq, hns⟩).symm.trans (nodesOf_eq_ok_iff.2 ⟨rfl, hms⟩))

/-- Nodes are the quotes of the legs, dated and sorted. -/
structure SortedNodes (i : CurveInput) (calendar : Calendar) (ns : List CurveNode) : Prop where
  sorted : ns.Pairwise fun a b => a.quote.tenor ≤ b.quote.tenor
  perm : (ns.map CurveNode.quote).Perm i.legs
  dated : ∀ n ∈ ns, i.IsDated calendar n

theorem SortedNodes.ascending (hns : SortedNodes i calendar ns) (h : Quotes.Apart i.cash i.swap) :
    Ascending (ns.map CurveNode.quote) :=
  ascending_of_sorted (List.pairwise_map.2 hns.sorted)
    ((hns.perm.map _).nodup_iff.2 (nodup_tenors_legs h))

theorem sortedNodes_mergeSort (hms : i.nodesOf calendar i.legs = .ok ms) :
    SortedNodes i calendar (ms.mergeSort fun a b => a.quote.tenorLe b.quote) := by
  obtain ⟨hquotes, hdated⟩ := nodesOf_eq_ok_iff.1 hms
  have hperm := List.mergeSort_perm ms fun a b => a.quote.tenorLe b.quote
  exact ⟨pairwise_mergeSort_tenor CurveNode.quote ms, hquotes ▸ hperm.map CurveNode.quote,
    fun n hn => hdated n (hperm.mem_iff.1 hn)⟩

theorem sortedNodes_of_nodes {calendars : Registry} (hns : i.nodes calendars = .ok ns) :
    SortedNodes i (calendars.resolve i.region) ns := by
  rw [nodes] at hns
  cases hms : i.nodesOf (calendars.resolve i.region) i.legs with
  | error e => simp [hms] at hns
  | ok ms =>
    rw [hms] at hns
    rw [← Except.ok.inj hns]
    exact sortedNodes_mergeSort hms

/-- If all quotes have nodes, the input has. -/
theorem exists_nodes {calendars : Registry}
    (h : ∀ q ∈ i.legs, i.Datable (calendars.resolve i.region) q) :
    ∃ ns, i.nodes calendars = .ok ns := by
  rw [nodes]
  cases hms : i.nodesOf (calendars.resolve i.region) i.legs with
  | ok ms => exact ⟨_, rfl⟩
  | error e =>
    obtain ⟨v, -, hfirst⟩ := nodesOf_eq_error_iff.1 hms
    obtain ⟨q, hq, hv⟩ := hfirst.exists_mem
    exact absurd (h q hq) hv.not_datable

theorem nodes_eq_ok_iff {calendars : Registry} (h : Quotes.Apart i.cash i.swap) :
    i.nodes calendars = .ok ns ↔ Ascending (ns.map CurveNode.quote) ∧
      (ns.map CurveNode.quote).Perm i.legs ∧
      ∀ n ∈ ns, i.IsDated (calendars.resolve i.region) n := by
  constructor
  · intro hns
    have hsorted := sortedNodes_of_nodes hns
    exact ⟨hsorted.ascending h, hsorted.perm, hsorted.dated⟩
  · rintro ⟨hascending, hperm, hdated⟩
    -- All quotes have nodes, so there is an outcome; it has the same quotes in the same strict order.
    obtain ⟨ms, hms⟩ : ∃ ms, i.nodes calendars = .ok ms := by
      refine exists_nodes fun q hq => ?_
      obtain ⟨n, hn, rfl⟩ := List.mem_map.1 (hperm.mem_iff.2 hq)
      exact ⟨n, rfl, hdated n hn⟩
    have hsorted := sortedNodes_of_nodes hms
    rw [hms, eq_of_quotes_eq hsorted.dated hdated ((hsorted.ascending h).eq_of_perm hascending
      (hsorted.perm.trans hperm.symm))]

theorem nodes_eq_error_iff {calendars : Registry} : i.nodes calendars = .error e ↔
    ∃ v, e = .value v ∧ FirstOf (i.Datable (calendars.resolve i.region))
      (fun q => i.Undatable (calendars.resolve i.region) q v) i.legs := by
  rw [← nodesOf_eq_error_iff, nodes]
  cases i.nodesOf (calendars.resolve i.region) i.legs <;> simp

/-- The node of a quote with a given maturity. -/
def nodeAt (i : CurveInput) (q : Quote) (d : Date) : CurveNode :=
  ⟨q, d, (i.dayCountOf q.instrument).yearFraction i.spotDate d⟩

end CurveInput

end TermStructure
