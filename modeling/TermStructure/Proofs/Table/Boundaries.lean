import TermStructure.Proofs.Table.Lookup

/-!
# Tables by their boundaries

A table is determined by the tenors at which one entry stops and the next one starts, and by the
values in between, of which there is one more. All boundaries that grow in length from `0D` on and
all values between them give a table (`Cuts.exists_table`) and no two of them the same table
(`Cuts.eq_of_builds`). Looking up a tenor counts the boundaries up to it (`Tiling.lookup_eq`).
-/

namespace TermStructure

universe u

variable {V : Type u}

/-- The segments between boundaries from a start on, the last one unbounded. -/
def consecutive : Tenor → List Tenor → List V → List (Segment V)
  | start, stop :: bs, v :: vs => ⟨start, some stop, v⟩ :: consecutive stop bs vs
  | start, [], v :: _ => [⟨start, none, v⟩]
  | _, _, [] => []

/-- Boundaries that grow in length from `0D` on, and the values that they separate. -/
structure Cuts (bs : List Tenor) (vs : List V) : Prop where
  positive : ∀ b ∈ bs, b.longerThan Tenor.zero
  increasing : bs.Pairwise fun a b => b.longerThan a
  length_eq : vs.length = bs.length + 1

/-- The table that is built of the segments between boundaries, in whatever order they are added. -/
def Builds (bs : List Tenor) (vs : List V) (t : Table V) : Prop :=
  ∀ ss, ss.Perm (consecutive Tenor.zero bs vs) → Builder.build ⟨ss⟩ = .ok t

/-! ## Tilings by their boundaries -/

/-- Boundaries that grow in length and the values between them are those of some entries. -/
theorem exists_entries {start : Tenor} {bs : List Tenor} {vs : List V}
    (hsorted : (start :: bs).Pairwise fun a b => b.longerThan a)
    (hlength : vs.length = bs.length + 1) :
    ∃ es : List (Entry V), es.map Entry.start = start :: bs ∧ es.map Entry.value = vs ∧
      (es.IsChain fun a b => a.stop = some b.start) ∧ es.getLast?.map Entry.stop = some none := by
  induction bs generalizing start vs with
  | nil =>
    obtain ⟨v, rfl⟩ := List.length_eq_one_iff.1 hlength
    exact ⟨[⟨.unbounded start, v⟩], rfl, rfl, .singleton _, rfl⟩
  | cons b bs ih =>
    obtain ⟨v, vs, rfl⟩ := List.exists_cons_of_length_eq_add_one hlength
    rw [List.pairwise_cons] at hsorted
    obtain ⟨es, hstarts, hvalues, hchain, hlast⟩ := ih hsorted.2 (Nat.succ.inj hlength)
    obtain ⟨e, rest, rfl, hb, -⟩ := List.map_eq_cons_iff.1 hstarts
    have hlonger : start.length < b.length :=
      Tenor.longerThan_eq_true.1 (hsorted.1 b (List.mem_cons_self ..))
    refine ⟨⟨⟨start, some b, by simpa using hlonger⟩, v⟩ :: e :: rest, ?_, ?_, ?_, ?_⟩
    · rw [List.map_cons, hstarts]
      rfl
    · rw [List.map_cons, hvalues]
    · exact List.isChain_cons_cons.2 ⟨congrArg some hb.symm, hchain⟩
    · rw [List.getLast?_cons_cons]
      exact hlast

/-- The segments of entries that follow each other are those between their starts. -/
theorem map_ofEntry_eq_consecutive {start : Tenor} {bs : List Tenor} {es : List (Entry V)}
    (hstarts : es.map Entry.start = start :: bs)
    (hchain : es.IsChain fun a b => a.stop = some b.start)
    (hlast : es.getLast?.map Entry.stop = some none) :
    es.map Segment.ofEntry = consecutive start bs (es.map Entry.value) := by
  induction es generalizing start bs with
  | nil => simp at hstarts
  | cons e rest ih =>
    obtain ⟨rfl, hrest⟩ := List.cons.inj hstarts
    cases rest with
    | nil =>
      obtain rfl := hrest
      have hstop : e.stop = none := Option.some.inj hlast
      rw [List.map_singleton, List.map_singleton, Segment.ofEntry, hstop]
      rfl
    | cons f rest =>
      obtain ⟨hstop, hchain⟩ := List.isChain_cons_cons.1 hchain
      rw [List.getLast?_cons_cons] at hlast
      rw [← hrest, List.map_cons, ih rfl hchain hlast, Segment.ofEntry, hstop]
      rfl

variable {bs : List Tenor} {vs : List V} {t u : Table V}

theorem Table.starts_eq (h : Tiling t.toList) :
    t.toList.map Entry.start = Tenor.zero :: t.boundaries := by
  obtain ⟨a, rest, hes, horigin⟩ := h.exists_cons
  rw [boundaries, hes, List.map_cons, horigin]
  rfl

namespace Tiling

theorem cuts (h : Tiling t.toList) : Cuts t.boundaries (t.toList.map Entry.value) := by
  have hstarts := Table.starts_eq h
  have hsorted : (Tenor.zero :: t.boundaries).Pairwise fun a b => b.longerThan a := by
    rw [← hstarts, List.pairwise_map]
    exact h.pairwise_length.imp Tenor.longerThan_eq_true.2
  refine ⟨(List.pairwise_cons.1 hsorted).1, (List.pairwise_cons.1 hsorted).2, ?_⟩
  rw [List.length_map, ← List.length_map (f := Entry.start), hstarts, List.length_cons]

theorem builds (h : Tiling t.toList) : Builds t.boundaries (t.toList.map Entry.value) t := by
  intro ss hperm
  rw [Builder.build_eq_ok_iff]
  rw [← map_ofEntry_eq_consecutive (Table.starts_eq h) h.contiguous h.unbounded] at hperm
  exact ⟨hperm.symm, h⟩

end Tiling

theorem Builds.unique (ht : Builds bs vs t) (hu : Builds bs vs u) : t = u :=
  Except.ok.inj ((ht _ (.refl _)).symm.trans (hu _ (.refl _)))

/-- All cuts are the boundaries and the values of a table. -/
theorem Cuts.exists_table (h : Cuts bs vs) : ∃ t : Table V,
    Tiling t.toList ∧ t.boundaries = bs ∧ t.toList.map Entry.value = vs ∧ Builds bs vs t := by
  have hsorted : (Tenor.zero :: bs).Pairwise fun a b => b.longerThan a :=
    List.pairwise_cons.2 ⟨h.positive, h.increasing⟩
  obtain ⟨es, hstarts, hvalues, hchain, hlast⟩ := exists_entries hsorted h.length_eq
  have horigin : es.head?.map Entry.start = some Tenor.zero := by
    rw [← List.head?_map, hstarts]
    rfl
  have htiling : Tiling (⟨es.toArray⟩ : Table V).toList := ⟨horigin, hchain, hlast⟩
  have hboundaries : (⟨es.toArray⟩ : Table V).boundaries = bs :=
    List.tail_eq_of_cons_eq ((Table.starts_eq htiling).symm.trans hstarts)
  have hbuilds := htiling.builds
  rw [hboundaries] at hbuilds
  exact ⟨⟨es.toArray⟩, htiling, hboundaries, hvalues, hvalues ▸ hbuilds⟩

/-- A table is built of one pair of cuts only, its own. -/
theorem Cuts.eq_of_builds (h : Cuts bs vs) (hbuilds : Builds bs vs t) :
    t.boundaries = bs ∧ t.toList.map Entry.value = vs := by
  obtain ⟨u, -, hboundaries, hvalues, hu⟩ := h.exists_table
  rw [hbuilds.unique hu]
  exact ⟨hboundaries, hvalues⟩

theorem Tiling.lookup_eq (h : Tiling t.toList) (tenor : Tenor) : ∃ v, t.lookup tenor = some v ∧
    (t.toList.map Entry.value)[t.boundaries.countP (·.le tenor)]? = some v := by
  obtain ⟨e, he, -⟩ := Table.exists_lookupEntry h tenor
  refine ⟨e.value, ?_, ?_⟩
  · rw [Table.lookup, he]
    rfl
  · rw [List.getElem?_map, ← Table.lookupEntry_eq h, he]
    rfl

/-- Making a table accepts the entries that can be arranged as a tiling, and keeps this arrangement.
So tables are the same as cuts: those of a table tell its boundaries and what is found between
them. -/
theorem ofEntries_tilings {V : Type} :
    (∀ es : List (Entry V),
      ((∃ t, Table.ofEntries es = .ok t) ↔ ∃ ts, ts.Perm es ∧ Tiling ts) ∧
      ∀ t, Table.ofEntries es = .ok t → ∀ ts, ts.Perm es ∧ Tiling ts ↔ ts = t.toList) ∧
    (∀ (bs : List Tenor) (vs : List V), Cuts bs vs → ∃ t, Builds bs vs t ∧ t.boundaries = bs ∧
      ∀ tenor, ∃ v, t.lookup tenor = some v ∧ vs[bs.countP (·.le tenor)]? = some v) ∧
    ∀ t : Table V, Run (.table t) →
      ∃! p : List Tenor × List V, Cuts p.1 p.2 ∧ Builds p.1 p.2 t := by
  refine ⟨fun es => ⟨⟨?_, ?_⟩, ?_⟩, ?_, ?_⟩
  · rintro ⟨t, ht⟩
    exact ⟨t.toList, Table.ofEntries_eq_ok_iff.1 ht⟩
  · rintro ⟨ts, harranged⟩
    exact ⟨⟨ts.toArray⟩, Table.ofEntries_eq_ok_iff.2 harranged⟩
  · intro t ht ts
    constructor
    · intro harranged
      have hts : Table.ofEntries es = .ok ⟨ts.toArray⟩ := Table.ofEntries_eq_ok_iff.2 harranged
      rw [Except.ok.inj (ht.symm.trans hts)]
      rfl
    · rintro rfl
      exact Table.ofEntries_eq_ok_iff.1 ht
  · intro bs vs hcuts
    obtain ⟨t, htiling, hboundaries, hvalues, hbuilds⟩ := hcuts.exists_table
    refine ⟨t, hbuilds, hboundaries, fun tenor => ?_⟩
    rw [← hboundaries, ← hvalues]
    exact htiling.lookup_eq tenor
  · intro t hrun
    have htiling : Tiling t.toList := hrun.sound
    refine ⟨(t.boundaries, t.toList.map Entry.value), ⟨htiling.cuts, htiling.builds⟩, ?_⟩
    rintro ⟨bs, vs⟩ ⟨hcuts, hbuilds⟩
    obtain ⟨hboundaries, hvalues⟩ := hcuts.eq_of_builds hbuilds
    rw [hboundaries, hvalues]

/-- A table of three entries with boundaries at `1Y` and `5Y`, which is also made of its entries in the opposite
order. -/
theorem ofEntries_tilings_years : ∃ t : Table Nat,
    (Table.ofEntries t.toList.reverse = .ok t ∧
      ∀ ts, ts.Perm t.toList.reverse ∧ Tiling ts ↔ ts = t.toList) ∧
    (Cuts [.years 1, .years 5] [1, 2, 3] ∧ Builds [.years 1, .years 5] [1, 2, 3] t ∧
      t.boundaries = [.years 1, .years 5] ∧ t.lookup (.months 24) = some 2) ∧
    Run (.table t) ∧ ∃! p : List Tenor × List Nat, Cuts p.1 p.2 ∧ Builds p.1 p.2 t := by
  obtain ⟨harranged, hbuilt, hunique⟩ := ofEntries_tilings (V := Nat)
  have hcuts : Cuts [.years 1, .years 5] [1, 2, 3] := ⟨by decide, by decide, rfl⟩
  obtain ⟨t, hbuilds, hboundaries, hlookup⟩ := hbuilt _ _ hcuts
  have htiling : Tiling t.toList := Table.tiling_of_build (hbuilds _ (.refl _))
  have hreverse : Table.ofEntries t.toList.reverse = .ok t :=
    Table.ofEntries_eq_ok_iff.2 ⟨(List.reverse_perm _).symm, htiling⟩
  obtain ⟨x, hx, hvalue⟩ := hlookup (.months 24)
  have hcount : [Tenor.years 1, .years 5].countP (·.le (.months 24)) = 1 := by decide
  rw [hcount] at hvalue
  obtain rfl : 2 = x := Option.some.inj hvalue
  have hrun := Run.of_tiling htiling
  exact ⟨t, ⟨hreverse, (harranged _).2 t hreverse⟩, ⟨hcuts, hbuilds, hboundaries, hx⟩, hrun,
    hunique t hrun⟩

end TermStructure
