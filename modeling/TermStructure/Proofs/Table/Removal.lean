import TermStructure.Proofs.Table.Boundaries
import TermStructure.Proofs.Table.Defect
import TermStructure.Proofs.Table.Editing

/-!
# Removing entries

No proper part of a tiling is a tiling (`Tiling.subset`): what one entry leaves open can be covered by no other
one. So a table from which entries are removed is not built again, and where a single one is removed the error
tells its place (`RemovalDefect.build_eq_error`). A tenor at which no entry starts removes nothing, even if it
is as long as a start.
-/

namespace TermStructure

universe u

variable {V : Type u} {es fs before after : List (Entry V)} {a b e : Entry V} {start s : Tenor}
  {stop : Option Tenor} {t : Table V} {starts : List Tenor} {error : StructureError}

/-! ## Parts of tilings -/

/-- The entries of a tiling are known from any tiling made of some of them. -/
theorem Tiling.subset (hes : Tiling es) (hfs : Tiling fs) (hsub : fs ⊆ es) : es ⊆ fs := by
  intro e he
  obtain ⟨x, hx, hcontains⟩ := hfs.covers.exists_contains_iff.2
    (show Within Tenor.zero none e.start from ⟨Tenor.zero_le _, by simp⟩)
  -- Both `e` and `x` contain the start of `e`.
  have hself := (Table.lookupEntry_eq_some_iff (t := ⟨es.toArray⟩) hes).2 ⟨he, e.interval.contains_start⟩
  have hother := (Table.lookupEntry_eq_some_iff (t := ⟨es.toArray⟩) hes).2 ⟨hsub hx, hcontains⟩
  rw [Option.some.inj (hself.symm.trans hother)]
  exact hx

namespace Table

theorem build_removeAll (t : Table V) (starts : List Tenor) :
    (t.toBuilder.removeAll starts).build = ofEntries (t.without starts) :=
  Builder.build_of_entries (t.pending_removed starts)

theorem build_remove (t : Table V) (s : Tenor) :
    (t.toBuilder.remove s).build = ofEntries (t.without [s]) :=
  t.build_removeAll [s]

theorem exists_error_of_removed (h : Tiling t.toList) (hne : starts ≠ [])
    (hstarts : ∀ s ∈ starts, s ∈ t.toList.map Entry.start) :
    ∃ error, (t.toBuilder.removeAll starts).build = .error error := by
  rw [build_removeAll]
  cases hbuilt : ofEntries (t.without starts) with
  | error error => exact ⟨error, rfl⟩
  | ok u =>
    obtain ⟨hperm, htiling⟩ := ofEntries_eq_ok_iff.1 hbuilt
    have hsub : u.toList ⊆ t.toList := List.Subset.trans hperm.subset List.filter_sublist.subset
    obtain ⟨s, hs⟩ := List.exists_mem_of_ne_nil starts hne
    obtain ⟨e, he, rfl⟩ := List.mem_map.1 (hstarts s hs)
    have hkept := List.mem_filter.1 (hperm.subset (h.subset htiling hsub he))
    exact absurd hs (of_decide_eq_true hkept.2)

theorem build_remove_of_not_mem (h : Tiling t.toList) (hs : s ∉ t.toList.map Entry.start) :
    (t.toBuilder.remove s).build = .ok t := by
  have hkept : t.without [s] = t.toList := by
    refine List.filter_eq_self.2 fun e he => decide_eq_true fun hstart => hs ?_
    rw [← List.mem_singleton.1 hstart]
    exact List.mem_map_of_mem he
  rw [build_remove, hkept, ofEntries_toList h]

/-! ## The defect that is left -/

theorem defect?_of_start (hs : (e :: es).Pairwise fun a b => a.start < b.start)
    (hzero : e.start ≠ Tenor.zero) : defect? (e :: es) = some (.missingOrigin e.start) := by
  simp only [defect?, sharedStart?_eq_none hs]
  exact if_pos hzero

theorem defect?_of_gap (hs : es.Pairwise fun a b => a.start < b.start)
    (horigin : es.head?.map Entry.start = some Tenor.zero) (hgap : firstGap? es = some (stop, start)) :
    defect? es = some (.gapOrOverlap stop start) := by
  cases es with
  | nil => exact absurd horigin (by simp)
  | cons e rest =>
    have hzero : e.start = Tenor.zero := Option.some.inj horigin
    simp only [defect?, sharedStart?_eq_none hs, hzero, hgap]
    rfl

theorem defect?_of_stop (hs : es.Pairwise fun a b => a.start < b.start)
    (h : Covers es Tenor.zero (some s)) : defect? es = some (.unterminatedTable s) := by
  obtain ⟨last, hlast, hstop⟩ := Option.map_eq_some_iff.1 h.last
  have hlastStop : lastStop? es = some s := by
    rw [lastStop?, hlast]
    exact hstop
  cases es with
  | nil => exact absurd rfl h.ne_nil
  | cons e rest =>
    have hzero : e.start = Tenor.zero := Option.some.inj h.head
    simp only [defect?, sharedStart?_eq_none hs, hzero, firstGap?_eq_none_iff.2 h.contiguous, hlastStop]
    rfl

end Table

/-- Where an entry does not follow those before it, there is the first gap. -/
theorem Covers.firstGap?_append (h : Covers es start (some s)) (hne : s ≠ b.start) :
    Table.firstGap? (es ++ b :: after) = some (some s, b.start) := by
  induction es generalizing start with
  | nil => exact absurd rfl h.ne_nil
  | cons a es ih =>
    cases es with
    | nil =>
      have hstop : a.stop = some s := h.of_singleton.2
      have hbreak : ¬ a.stop = some b.start := fun heq => hne (Option.some.inj (hstop.symm.trans heq))
      rw [List.singleton_append, Table.firstGap?, if_neg hbreak, hstop]
    | cons c es =>
      obtain ⟨-, hstop, hrest⟩ := h.of_cons_cons
      rw [List.cons_append, List.cons_append, Table.firstGap?, if_pos hstop]
      exact ih hrest

/-- The entries of a tiling in front of one of them. -/
theorem Tiling.covers_front (h : Tiling (before ++ e :: after)) (hne : before ≠ []) :
    Covers before Tenor.zero (some e.start) := by
  obtain ⟨hbefore, -, hnext⟩ := contiguous_append_iff.1 h.contiguous
  obtain ⟨first, rest, rfl⟩ := List.exists_cons_of_ne_nil hne
  refine ⟨h.origin, hbefore, ?_⟩
  rw [List.getLast?_eq_some_getLast hne] at hnext ⊢
  exact congrArg some (hnext _ rfl _ rfl)

/-- What is wrong with the entries of a table without the one that starts at a tenor, by its place. -/
inductive RemovalDefect (es : List (Entry V)) : Tenor → StructureError → Prop where
  | only {e : Entry V} : es = [e] → RemovalDefect es e.start .emptyTable
  | first {e next : Entry V} {after : List (Entry V)} : es = e :: next :: after →
    RemovalDefect es e.start (.missingOrigin next.start)
  | interior {before after : List (Entry V)} {e next : Entry V} : before ≠ [] →
    es = before ++ e :: next :: after → RemovalDefect es e.start (.gapOrOverlap (some e.start) next.start)
  | last {before : List (Entry V)} {e : Entry V} : before ≠ [] → es = before ++ [e] →
    RemovalDefect es e.start (.unterminatedTable e.start)

theorem exists_removalDefect (hs : s ∈ es.map Entry.start) : ∃ error, RemovalDefect es s error := by
  obtain ⟨e, he, rfl⟩ := List.mem_map.1 hs
  obtain ⟨before, after, hlist⟩ := List.append_of_mem he
  rcases before with _ | ⟨first, before⟩ <;> rcases after with _ | ⟨next, after⟩
  · exact ⟨_, .only hlist⟩
  · exact ⟨_, .first hlist⟩
  · exact ⟨_, .last (List.cons_ne_nil first before) hlist⟩
  · exact ⟨_, .interior (List.cons_ne_nil first before) hlist⟩

namespace Table

/-- The entries around one that is removed keep their order, so their defect is found among neighbours. -/
theorem build_remove_eq_error (h : Tiling t.toList) (hlist : t.toList = before ++ e :: after)
    (hdefect : ((before ++ after).Pairwise fun a b => a.start < b.start) →
      defect? (before ++ after) = some error) :
    (t.toBuilder.remove e.start).build = .error error := by
  have hsplit : t.toList = before ++ [e] ++ after := by
    rw [hlist, List.append_assoc, List.singleton_append]
  have hkept : t.without [e.start] = before ++ after := without_eq h hsplit fun s => Iff.rfl
  have hsorted : (before ++ after).Pairwise fun a b => a.start < b.start :=
    hkept ▸ h.pairwise_start.sublist List.filter_sublist
  rw [build_remove, hkept, ofEntries_eq_error_iff]
  exact firstDefect_of_defect? (hsorted.imp le_of_lt) (hdefect hsorted)

end Table

theorem RemovalDefect.build_eq_error (ht : Tiling t.toList) (h : RemovalDefect t.toList s error) :
    (t.toBuilder.remove s).build = .error error := by
  have hstarts := ht.pairwise_start
  cases h with
  | @only e hlist =>
    have hlist' : t.toList = [] ++ e :: [] := hlist
    exact Table.build_remove_eq_error ht hlist' fun _ => rfl
  | @first e next after hlist =>
    have hlist' : t.toList = [] ++ e :: next :: after := hlist
    refine Table.build_remove_eq_error ht hlist' fun hsorted => ?_
    rw [hlist] at hstarts
    have hlt := (List.pairwise_cons.1 hstarts).1 _ List.mem_cons_self
    exact Table.defect?_of_start hsorted ((Tenor.zero_le _).trans_lt hlt).ne'
  | interior hne hlist =>
    refine Table.build_remove_eq_error ht hlist fun hsorted => ?_
    have hfront := (hlist ▸ ht).covers_front hne
    rw [hlist, List.pairwise_append, List.pairwise_cons] at hstarts
    have hlt := hstarts.2.1.1 _ List.mem_cons_self
    refine Table.defect?_of_gap hsorted ?_ (hfront.firstGap?_append hlt.ne)
    rw [map_head?_append, hfront.head]
    rfl
  | last hne hlist =>
    refine Table.build_remove_eq_error ht hlist fun hsorted => ?_
    rw [List.append_nil] at hsorted ⊢
    exact Table.defect?_of_stop hsorted ((hlist ▸ ht).covers_front hne)

/-- A table from which starts were removed is never built. For a single start the error tells its place. A
tenor that is not a start removes nothing. -/
theorem removal_detected {V : Type} {t : Table V} (hrun : Run (.table t)) :
    (∀ starts, starts ≠ [] → (∀ s ∈ starts, s ∈ t.toList.map Entry.start) →
      ∃ error, (t.toBuilder.removeAll starts).build = .error error) ∧
    (∀ s ∈ t.toList.map Entry.start,
      ∃ error, RemovalDefect t.toList s error ∧ (t.toBuilder.remove s).build = .error error) ∧
    (∀ s error, RemovalDefect t.toList s error → (t.toBuilder.remove s).build = .error error) ∧
    ∀ s, s ∉ t.toList.map Entry.start → (t.toBuilder.remove s).build = .ok t := by
  have htiling : Tiling t.toList := hrun.sound
  refine ⟨fun starts => Table.exists_error_of_removed htiling, fun s hs => ?_,
    fun s error h => h.build_eq_error htiling, fun s => Table.build_remove_of_not_mem htiling⟩
  obtain ⟨error, herror⟩ := exists_removalDefect hs
  exact ⟨error, herror, herror.build_eq_error htiling⟩

/-- An entry in the middle leaves a gap. The tenor `12M` is no start although `1Y` is one. -/
theorem removal_detected_middle : ∃ t : Table Nat,
    Run (.table t) ∧ t.toList.map Entry.start = [.zero, .years 1, .years 5] ∧
    (∃ error, (t.toBuilder.removeAll [.years 5, .zero]).build = .error error) ∧
    RemovalDefect t.toList (.years 1) (.gapOrOverlap (some (.years 1)) (.years 5)) ∧
    (t.toBuilder.remove (.years 1)).build = .error (.gapOrOverlap (some (.years 1)) (.years 5)) ∧
    .months 12 ∉ t.toList.map Entry.start ∧ (t.toBuilder.remove (.months 12)).build = .ok t := by
  have hcuts : Cuts [.years 1, .years 5] [1, 2, 3] := ⟨by decide, by decide, rfl⟩
  obtain ⟨t, htiling, hboundaries, -, -⟩ := hcuts.exists_table
  have hrun := Run.of_tiling htiling
  have hstarts := Table.starts_eq htiling
  rw [hboundaries] at hstarts
  have hdefect : RemovalDefect t.toList (.years 1) (.gapOrOverlap (some (.years 1)) (.years 5)) := by
    obtain ⟨first, rest, hlist, -, hrest⟩ := List.map_eq_cons_iff.1 hstarts
    obtain ⟨e, rest, rfl, he, hrest⟩ := List.map_eq_cons_iff.1 hrest
    obtain ⟨next, rest, rfl, hnext, -⟩ := List.map_eq_cons_iff.1 hrest
    have hinterior := RemovalDefect.interior (List.cons_ne_nil first []) hlist
    rwa [he, hnext] at hinterior
  have hother : .months 12 ∉ t.toList.map Entry.start := by
    rw [hstarts]
    decide
  obtain ⟨hsets, -, hsingle, hnone⟩ := removal_detected hrun
  refine ⟨t, hrun, hstarts, hsets _ (List.cons_ne_nil _ _) ?_, hdefect, hsingle _ _ hdefect, hother,
    hnone _ hother⟩
  rw [hstarts]
  decide

end TermStructure
