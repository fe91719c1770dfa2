import Mathlib.Data.List.Chain
import Mathlib.Data.List.Nodup
import Mathlib.Data.List.Perm.Basic
import TermStructure.Proofs.Outcome
import TermStructure.Proofs.Tenor.Order
import TermStructure.Table.Builder

/-!
# Tilings

`Tiling es`: the entries start at `0D`, each stops where the next one starts, and the last one is
unbounded. A stop is longer than its start, so the starts of a tiling grow in length
(`Tiling.pairwise_length`), hence in the order by which tables are sorted, and a tiling is the only
arrangement of its entries in that order. `Table.ofEntries_eq_ok_iff`: the tables made of some
entries are the arrangements of these entries that are tilings. A builder keeps segments in the
order in which they were added, so tables are built of the segments of their entries in any order,
and of no others (`Builder.build_eq_ok_iff`).
-/

namespace TermStructure

universe u v

variable {V : Type u} {W : Type v}

/-- Entries that cover the tenors from `0D` on, each stopping where the next one starts. -/
structure Tiling (es : List (Entry V)) : Prop where
  origin : es.head?.map Entry.start = some Tenor.zero
  contiguous : es.IsChain fun a b => a.stop = some b.start
  unbounded : es.getLast?.map Entry.stop = some none

theorem Entry.length_lt_of_stop {e : Entry V} {t : Tenor} (h : e.stop = some t) :
    e.start.length < t.length :=
  e.interval.start_length_lt t h

namespace Tiling

variable {es fs : List (Entry V)}

theorem ne_nil (h : Tiling es) : es ≠ [] := by
  rintro rfl
  exact absurd h.origin (by simp)

/-- The starts grow in length: each stop is longer than the start before, and is the next start. -/
theorem pairwise_length (h : Tiling es) :
    es.Pairwise fun a b => a.start.length < b.start.length := by
  have hchain : es.IsChain fun a b => a.start.length < b.start.length :=
    h.contiguous.imp fun _ _ hstop => Entry.length_lt_of_stop hstop
  have htrans : IsTrans (Entry V) fun a b => a.start.length < b.start.length :=
    ⟨fun _ _ _ => Nat.lt_trans⟩
  exact List.isChain_iff_pairwise.1 hchain

theorem pairwise_start (h : Tiling es) : es.Pairwise fun a b => a.start < b.start :=
  h.pairwise_length.imp Tenor.lt_of_length_lt

/-- Every entry but the last stops where another one starts. -/
theorem exists_next (h : Tiling es) {e : Entry V} (he : e ∈ es.dropLast) :
    ∃ f ∈ es, e.stop = some f.start := by
  obtain ⟨i, hi, rfl⟩ := List.getElem_of_mem he
  have hnext : i + 1 < es.length := by
    rw [List.length_dropLast] at hi
    omega
  refine ⟨es[i + 1], List.getElem_mem hnext, ?_⟩
  rw [List.getElem_dropLast]
  exact List.isChain_iff_getElem.1 h.contiguous i hnext

/-- Whether entries form a tiling depends on their intervals only. -/
theorem of_intervals {fs : List (Entry W)} (h : Tiling es)
    (heq : fs.map Entry.interval = es.map Entry.interval) : Tiling fs := by
  have hstart : fs.map Entry.start = es.map Entry.start := by
    have hmap := congrArg (List.map Interval.start) heq
    rwa [List.map_map, List.map_map] at hmap
  have hstop : fs.map Entry.stop = es.map Entry.stop := by
    have hmap := congrArg (List.map Interval.stop) heq
    rwa [List.map_map, List.map_map] at hmap
  refine ⟨?_, ?_, ?_⟩
  · rw [← List.head?_map, hstart, List.head?_map]
    exact h.origin
  · have hchain : (es.map Entry.interval).IsChain fun i j => i.stop = some j.start :=
      (List.isChain_map _).2 h.contiguous
    rw [← heq] at hchain
    exact (List.isChain_map _).1 hchain
  · rw [← List.getLast?_map, hstop, List.getLast?_map]
    exact h.unbounded

end Tiling

namespace Table

variable {es : List (Entry V)}

/-! ## Sorting -/

theorem sortEntries_perm (es : List (Entry V)) : (sortEntries es).Perm es :=
  List.mergeSort_perm es _

theorem pairwise_sortEntries (es : List (Entry V)) :
    (sortEntries es).Pairwise fun a b => a.start ≤ b.start := by
  refine List.pairwise_mergeSort ?_ ?_ es
  · intro a b c hab hbc
    exact le_trans (α := Tenor) hab hbc
  · intro a b
    rw [Bool.or_eq_true]
    exact le_total a.start b.start

theorem nodup_starts (h : es.Pairwise fun a b => a.start < b.start) :
    (es.map Entry.start).Nodup := by
  rw [List.nodup_iff_pairwise_ne, List.pairwise_map]
  exact h.imp ne_of_lt

/-- Entries with distinct starts have one arrangement with growing starts, and sorting finds it. -/
theorem sortEntries_eq_of_perm {ts : List (Entry V)} (hperm : ts.Perm es)
    (hlt : ts.Pairwise fun a b => a.start < b.start) : sortEntries es = ts := by
  refine List.Perm.eq_of_pairwise ?_ (pairwise_sortEntries es) (hlt.imp le_of_lt)
    ((sortEntries_perm es).trans hperm.symm)
  intro a b ha hb hab hba
  have hmem := hperm.mem_iff.2 ((sortEntries_perm es).mem_iff.1 ha)
  exact List.inj_on_of_nodup_map (nodup_starts hlt) hmem hb (le_antisymm hab hba)

/-! ## Validation -/

theorem sharedStart?_eq_none (h : es.Pairwise fun a b => a.start < b.start) :
    sharedStart? es = none := by
  fun_induction sharedStart? es with
  | case1 a b rest heq =>
    rw [List.pairwise_cons] at h
    exact absurd heq (h.1 b (by simp)).ne
  | case2 a b rest hne ih => exact ih (List.pairwise_cons.1 h).2
  | case3 => rfl

theorem firstGap?_eq_none_iff :
    firstGap? es = none ↔ es.IsChain fun a b => a.stop = some b.start := by
  fun_induction firstGap? es with
  | case1 a b rest heq ih => rw [ih, List.isChain_cons_cons, and_iff_right heq]
  | case2 a b rest hne => simp [List.isChain_cons_cons, hne]
  | case3 es hshort =>
    -- Fewer than two entries are left, so there are no neighbours.
    rcases es with _ | ⟨a, _ | ⟨b, rest⟩⟩
    · simp
    · simp
    · exact absurd rfl (hshort a b rest)

theorem lastStop?_eq_none_iff (hne : es ≠ []) :
    lastStop? es = none ↔ es.getLast?.map Entry.stop = some none := by
  rw [lastStop?, List.getLast?_eq_some_getLast hne]
  simp

/-- The validation finds no defect in tilings, and only there. -/
theorem defect?_eq_none_iff : defect? es = none ↔ Tiling es := by
  cases es with
  | nil => exact ⟨fun h => by simp [defect?] at h, fun h => absurd rfl h.ne_nil⟩
  | cons e rest =>
    have hne : e :: rest ≠ [] := List.cons_ne_nil e rest
    constructor
    · intro h
      simp only [defect?] at h
      split at h
      · simp at h
      · split at h
        · simp at h
        next horigin =>
          split at h
          · simp at h
          next hgap =>
            rw [Option.map_eq_none_iff, lastStop?_eq_none_iff hne] at h
            exact ⟨congrArg some (not_not.1 horigin), firstGap?_eq_none_iff.1 hgap, h⟩
    · intro h
      have horigin : e.start = Tenor.zero := Option.some.inj h.origin
      simp only [defect?, sharedStart?_eq_none h.pairwise_start, horigin,
        firstGap?_eq_none_iff.2 h.contiguous, (lastStop?_eq_none_iff hne).2 h.unbounded]
      rfl

theorem ofEntries_eq_ok_iff_sorted {t : Table V} :
    ofEntries es = .ok t ↔ sortEntries es = t.toList ∧ Tiling t.toList := by
  simp only [ofEntries]
  split
  next e he =>
    refine ⟨fun h => by simp at h, ?_⟩
    rintro ⟨hsort, htiling⟩
    rw [hsort, defect?_eq_none_iff.2 htiling] at he
    simp at he
  next hnone =>
    constructor
    · intro h
      obtain rfl := Except.ok.inj h
      exact ⟨rfl, defect?_eq_none_iff.1 hnone⟩
    · rintro ⟨hsort, -⟩
      rw [hsort]
      rfl

/-- The tables of some entries are their arrangements that are tilings. -/
theorem ofEntries_eq_ok_iff {t : Table V} :
    ofEntries es = .ok t ↔ t.toList.Perm es ∧ Tiling t.toList := by
  rw [ofEntries_eq_ok_iff_sorted]
  constructor
  · rintro ⟨hsort, htiling⟩
    exact ⟨hsort ▸ sortEntries_perm es, htiling⟩
  · rintro ⟨hperm, htiling⟩
    exact ⟨sortEntries_eq_of_perm hperm htiling.pairwise_start, htiling⟩

theorem ofEntries_toList {t : Table V} (h : Tiling t.toList) : ofEntries t.toList = .ok t :=
  ofEntries_eq_ok_iff.2 ⟨.refl _, h⟩

end Table

/-! ## Building -/

theorem Interval.ofBounds_eq_ok_iff {start : Tenor} {stop : Option Tenor} {i : Interval} :
    ofBounds start stop = .ok i ↔ i.start = start ∧ i.stop = stop := by
  obtain ⟨start', stop', hlt⟩ := i
  cases stop with
  | none =>
    simp only [ofBounds, unbounded, Except.ok.injEq, mk.injEq]
    exact and_congr eq_comm eq_comm
  | some e =>
    rw [ofBounds]
    constructor
    · intro h
      split at h
      · simp only [Except.ok.injEq, mk.injEq] at h
        exact ⟨h.1.symm, h.2.symm⟩
      · simp at h
    · rintro ⟨hstart, hstop⟩
      subst hstart hstop
      rw [dif_pos (hlt e rfl)]

theorem Segment.toEntry_eq_ok_iff {s : Segment V} {e : Entry V} :
    s.toEntry = .ok e ↔ Segment.ofEntry e = s := by
  constructor
  · intro h
    rw [toEntry] at h
    split at h
    next i hi =>
      obtain rfl := Except.ok.inj h
      obtain ⟨hstart, hstop⟩ := Interval.ofBounds_eq_ok_iff.1 hi
      rw [ofEntry, Entry.start, Entry.stop, hstart, hstop]
    · simp at h
  · rintro rfl
    have hbounds : Interval.ofBounds e.start e.stop = .ok e.interval :=
      Interval.ofBounds_eq_ok_iff.2 ⟨rfl, rfl⟩
    simp only [toEntry, ofEntry, hbounds]

namespace Builder

theorem traverses_entriesOf :
    Outcome.Traverses (Segment.toEntry : Segment V → Except StructureError (Entry V)) entriesOf where
  nil := rfl
  cons s ss := by
    rw [entriesOf]
    cases s.toEntry with
    | error e => rfl
    | ok e => cases entriesOf ss <;> rfl

theorem entriesOf_eq_ok_iff {ss : List (Segment V)} {es : List (Entry V)} :
    entriesOf ss = .ok es ↔ es.map Segment.ofEntry = ss := by
  have hentry : ∀ (s : Segment V) (e : Entry V), s.toEntry = .ok e ↔ Segment.ofEntry e = s ∧ True :=
    fun s e => by rw [and_true, Segment.toEntry_eq_ok_iff]
  rw [traverses_entriesOf.eq_ok_iff_map hentry]
  simp

/-- A table is built of the segments of its entries in any order. -/
theorem build_eq_ok_iff {b : Builder V} {t : Table V} :
    b.build = .ok t ↔ (t.toList.map Segment.ofEntry).Perm b.pending ∧ Tiling t.toList := by
  constructor
  · intro h
    rw [build] at h
    split at h
    next es hes =>
      obtain ⟨hperm, htiling⟩ := Table.ofEntries_eq_ok_iff.1 h
      rw [← entriesOf_eq_ok_iff.1 hes]
      exact ⟨hperm.map _, htiling⟩
    · simp at h
  · rintro ⟨hperm, htiling⟩
    -- A rearrangement of the segments comes from one of the entries.
    obtain ⟨es, hes, hperm'⟩ : ∃ es : List (Entry V),
        b.pending = es.map Segment.ofEntry ∧ es.Perm t.toList := by
      have hlift : Relation.Comp (· = List.map Segment.ofEntry ·) List.Perm b.pending t.toList := by
        rw [List.eq_map_comp_perm]
        exact hperm.symm
      exact hlift
    rw [build, entriesOf_eq_ok_iff.2 hes.symm]
    exact Table.ofEntries_eq_ok_iff.2 ⟨hperm'.symm, htiling⟩

end Builder

end TermStructure
