import TermStructure.Proofs.Table.Building
import TermStructure.Proofs.Table.Lookup

/-!
# Editing tables

A table is edited in a builder: some starts are removed, some entries are added, and what is left is a table
of the entries that were kept and added (`Table.build_edited`). A run of neighbouring entries can be replaced
by any others that follow each other over the same tenors: the result is the table with the run replaced
(`Tiling.replace`), so it differs at the tenors of the run only (`edit_local`).
-/

namespace TermStructure

universe u

variable {V : Type u}

/-! ## Tables in builders -/

namespace Builder

variable {b : Builder V} {es : List (Entry V)}

/-- Removes all segments with one of some starts. -/
def removeAll (b : Builder V) (starts : List Tenor) : Builder V :=
  starts.foldl remove b

theorem pending_removeAll (b : Builder V) (starts : List Tenor) :
    (b.removeAll starts).pending = b.pending.filter fun s => s.start ∉ starts := by
  induction starts generalizing b with
  | nil => simp [removeAll]
  | cons start rest ih =>
    change ((b.remove start).removeAll rest).pending = _
    rw [ih, remove, List.filter_filter]
    refine List.filter_congr fun s _ => ?_
    rw [Bool.eq_iff_iff]
    simp [and_comm]

theorem build_of_entries (h : b.pending = es.map Segment.ofEntry) :
    b.build = Table.ofEntries es := by
  rw [build, h, entriesOf_eq_ok_iff.2 rfl]

end Builder

namespace Table

/-- The entries of a table that have none of some starts. -/
def without (t : Table V) (starts : List Tenor) : List (Entry V) :=
  t.toList.filter fun e => e.start ∉ starts

theorem pending_toBuilder (t : Table V) : t.toBuilder.pending = t.toList.map Segment.ofEntry := by
  rw [toBuilder, Builder.pending_addEntries]
  rfl

theorem pending_removed (t : Table V) (starts : List Tenor) :
    (t.toBuilder.removeAll starts).pending = (t.without starts).map Segment.ofEntry := by
  rw [Builder.pending_removeAll, pending_toBuilder, List.filter_map]
  rfl

/-- The starts of a run belong to its entries only, so removing them keeps all the others. -/
theorem without_eq {t : Table V} {before removed after : List (Entry V)} {starts : List Tenor}
    (h : Tiling t.toList) (hlist : t.toList = before ++ removed ++ after)
    (hstarts : ∀ s, s ∈ starts ↔ s ∈ removed.map Entry.start) :
    t.without starts = before ++ after := by
  have hsorted := h.pairwise_start
  rw [hlist, List.pairwise_append, List.pairwise_append] at hsorted
  obtain ⟨⟨-, -, hlower⟩, -, hupper⟩ := hsorted
  have hkept : ∀ e : Entry V, (∀ r ∈ removed, r.start ≠ e.start) → e.start ∉ starts := by
    intro e hne hstart
    obtain ⟨r, hr, heq⟩ := List.mem_map.1 ((hstarts e.start).1 hstart)
    exact hne r hr heq
  have hbefore : ∀ e ∈ before, e.start ∉ starts :=
    fun e he => hkept e fun r hr => (hlower e he r hr).ne'
  have hafter : ∀ e ∈ after, e.start ∉ starts :=
    fun e he => hkept e fun r hr => (hupper r (List.mem_append_right _ hr) e he).ne
  have hremoved : ∀ e ∈ removed, ¬ e.start ∉ starts :=
    fun e he hnot => hnot ((hstarts e.start).2 (List.mem_map_of_mem he))
  rw [without, hlist, List.filter_append, List.filter_append,
    List.filter_eq_self.2 fun e he => decide_eq_true (hbefore e he),
    List.filter_eq_self.2 fun e he => decide_eq_true (hafter e he),
    List.filter_eq_nil_iff.2 fun e he => by simpa using hremoved e he, List.append_nil]

/-- Building an edited table makes a table of what was kept and what was added. -/
theorem build_edited (t : Table V) (starts : List Tenor) (added : List (Entry V)) :
    ((t.toBuilder.removeAll starts).addEntries added).build = ofEntries (t.without starts ++ added) := by
  refine Builder.build_of_entries ?_
  rw [Builder.pending_addEntries, pending_removed, List.map_append]

theorem build_toBuilder {t : Table V} (h : Tiling t.toList) : t.toBuilder.build = .ok t :=
  (Builder.build_of_entries t.pending_toBuilder).trans (ofEntries_toList h)

end Table

/-! ## Entries that follow each other -/

/-- Entries that follow each other, the first one from `start` on and the last one up to `stop`. -/
structure Covers (es : List (Entry V)) (start : Tenor) (stop : Option Tenor) : Prop where
  head : es.head?.map Entry.start = some start
  contiguous : es.IsChain fun a b => a.stop = some b.start
  last : es.getLast?.map Entry.stop = some stop

variable {es fs before removed inserted after : List (Entry V)} {a b : Entry V} {start : Tenor}
  {stop : Option Tenor}

theorem Tiling.covers (h : Tiling es) : Covers es Tenor.zero none :=
  ⟨h.origin, h.contiguous, h.unbounded⟩

/-- Two chains make up one if the second begins where the first stops. -/
theorem contiguous_append_iff :
    ((es ++ fs).IsChain fun a b => a.stop = some b.start) ↔
      (es.IsChain fun a b => a.stop = some b.start) ∧ (fs.IsChain fun a b => a.stop = some b.start) ∧
        ∀ x ∈ es.getLast?.map Entry.stop, ∀ y ∈ fs.head?.map Entry.start, x = some y := by
  rw [List.isChain_append]
  simp

theorem map_head?_append {α : Type*} (f : Entry V → α) (es fs : List (Entry V)) :
    (es ++ fs).head?.map f = (es.head?.map f).or (fs.head?.map f) := by
  rw [List.head?_append, Option.map_or]

theorem map_getLast?_append {α : Type*} (f : Entry V → α) (es fs : List (Entry V)) :
    (es ++ fs).getLast?.map f = (fs.getLast?.map f).or (es.getLast?.map f) := by
  rw [List.getLast?_append, Option.map_or]

/-- Whether entries form a tiling does not depend on how a part of the tenors is covered. -/
theorem Tiling.replace (h : Tiling (before ++ removed ++ after)) (hremoved : Covers removed start stop)
    (hinserted : Covers inserted start stop) : Tiling (before ++ inserted ++ after) := by
  obtain ⟨horigin, hcontiguous, hunbounded⟩ := h
  simp only [contiguous_append_iff, map_head?_append, map_getLast?_append, hremoved.head,
    hremoved.last] at horigin hcontiguous hunbounded
  obtain ⟨⟨hbefore, -, hstart⟩, hafter, hstop⟩ := hcontiguous
  constructor
  · simpa only [map_head?_append, hinserted.head] using horigin
  · simp only [contiguous_append_iff, map_getLast?_append, hinserted.head, hinserted.last]
    exact ⟨⟨hbefore, hinserted.contiguous, hstart⟩, hafter, hstop⟩
  · simpa only [map_getLast?_append, hinserted.last] using hunbounded

/-- The tenors from `start` on and before `stop`. -/
def Within (start : Tenor) (stop : Option Tenor) (tenor : Tenor) : Prop :=
  start ≤ tenor ∧ ∀ x ∈ stop, tenor < x

namespace Covers

variable {rest : List (Entry V)} {tenor : Tenor}

theorem ne_nil (h : Covers es start stop) : es ≠ [] := by
  rintro rfl
  exact absurd h.head (by simp)

theorem of_singleton (h : Covers [a] start stop) : a.start = start ∧ a.stop = stop :=
  ⟨Option.some.inj h.head, Option.some.inj h.last⟩

theorem of_cons_cons (h : Covers (a :: b :: rest) start stop) :
    a.start = start ∧ a.stop = some b.start ∧ Covers (b :: rest) b.start stop := by
  obtain ⟨hstop, hcontiguous⟩ := List.isChain_cons_cons.1 h.contiguous
  have hlast := h.last
  rw [List.getLast?_cons_cons] at hlast
  exact ⟨Option.some.inj h.head, hstop, rfl, hcontiguous, hlast⟩

theorem start_lt (h : Covers es start stop) : ∀ x ∈ stop, start < x := by
  induction es generalizing start with
  | nil => exact absurd rfl h.ne_nil
  | cons a rest ih =>
    cases rest with
    | nil =>
      obtain ⟨rfl, rfl⟩ := h.of_singleton
      exact fun x hx => Tenor.lt_of_length_lt (Entry.length_lt_of_stop hx)
    | cons b rest =>
      obtain ⟨rfl, hstop, hrest⟩ := h.of_cons_cons
      exact fun x hx => (Tenor.lt_of_length_lt (Entry.length_lt_of_stop hstop)).trans (ih hrest x hx)

/-- Entries that follow each other share out the tenors between their ends, and no others. -/
theorem exists_contains_iff (h : Covers es start stop) :
    (∃ e ∈ es, e.interval.contains tenor = true) ↔ Within start stop tenor := by
  induction es generalizing start with
  | nil => exact absurd rfl h.ne_nil
  | cons a rest ih =>
    cases rest with
    | nil =>
      obtain ⟨rfl, rfl⟩ := h.of_singleton
      simp only [List.mem_singleton, exists_eq_left]
      exact Interval.contains_iff
    | cons b rest =>
      obtain ⟨rfl, hstop, hrest⟩ := h.of_cons_cons
      have hnext : a.start < b.start := Tenor.lt_of_length_lt (Entry.length_lt_of_stop hstop)
      have ha : a.interval.contains tenor = true ↔ a.start ≤ tenor ∧ tenor < b.start := by
        rw [Interval.contains_iff, show a.interval.stop = some b.start from hstop]
        simp [Entry.start]
      -- The first entry holds the tenors before the next start, and the others hold those from there on.
      rw [List.exists_mem_cons_iff, ha, ih hrest]
      constructor
      · rintro (⟨hle, hlt⟩ | ⟨hle, hbefore⟩)
        · exact ⟨hle, fun x hx => hlt.trans (hrest.start_lt x hx)⟩
        · exact ⟨hnext.le.trans hle, hbefore⟩
      · rintro ⟨hle, hbefore⟩
        rcases lt_or_ge tenor b.start with hlt | hge
        · exact Or.inl ⟨hle, hlt⟩
        · exact Or.inr ⟨hge, hbefore⟩

end Covers

/-! ## Replacing a run -/

/-- A run of neighbouring entries of a table, and entries over the same tenors that are to take its place. -/
structure Edit (t : Table V) where
  before : List (Entry V)
  removed : List (Entry V)
  after : List (Entry V)
  inserted : List (Entry V)
  start : Tenor
  stop : Option Tenor
  toList_eq : t.toList = before ++ removed ++ after
  removed_covers : Covers removed start stop
  inserted_covers : Covers inserted start stop

namespace Edit

variable {t u : Table V} {starts : List Tenor} {added : List (Entry V)} {tenor : Tenor}

/-- The entries of the edited table. -/
def entries (edit : Edit t) : List (Entry V) :=
  edit.before ++ edit.inserted ++ edit.after

theorem tiling_entries (edit : Edit t) (h : Tiling t.toList) : Tiling edit.entries :=
  (edit.toList_eq ▸ h).replace edit.removed_covers edit.inserted_covers

theorem lookupEntry_outside (edit : Edit t) (ht : Tiling t.toList) (hu : u.toList = edit.entries)
    (hout : ¬ Within edit.start edit.stop tenor) : u.lookupEntry tenor = t.lookupEntry tenor := by
  have htiling : Tiling u.toList := hu ▸ edit.tiling_entries ht
  obtain ⟨e, he, -⟩ := Table.exists_lookupEntry ht tenor
  obtain ⟨hmem, hcontains⟩ := (Table.lookupEntry_eq_some_iff ht).1 he
  rw [he, Table.lookupEntry_eq_some_iff htiling, hu]
  refine ⟨?_, hcontains⟩
  rw [edit.toList_eq] at hmem
  rcases List.mem_append.1 hmem with hmem | hafter
  · rcases List.mem_append.1 hmem with hbefore | hremoved
    · exact List.mem_append_left _ (List.mem_append_left _ hbefore)
    · exact absurd (edit.removed_covers.exists_contains_iff.1 ⟨e, hremoved, hcontains⟩) hout
  · exact List.mem_append_right _ hafter

theorem exists_lookupEntry_inside (edit : Edit t) (ht : Tiling t.toList) (hu : u.toList = edit.entries)
    (hin : Within edit.start edit.stop tenor) :
    ∃ e ∈ edit.inserted, e.interval.contains tenor = true ∧ u.lookupEntry tenor = some e := by
  have htiling : Tiling u.toList := hu ▸ edit.tiling_entries ht
  obtain ⟨e, he, hcontains⟩ := edit.inserted_covers.exists_contains_iff.2 hin
  refine ⟨e, he, hcontains, (Table.lookupEntry_eq_some_iff htiling).2 ⟨?_, hcontains⟩⟩
  rw [hu]
  exact List.mem_append_left _ (List.mem_append_right _ he)

/-- The starts of the run are removed and the new entries added, both in any order. -/
theorem build_eq_ok (edit : Edit t) (ht : Tiling t.toList)
    (hstarts : ∀ s, s ∈ starts ↔ s ∈ edit.removed.map Entry.start) (hadded : added.Perm edit.inserted) :
    ((t.toBuilder.removeAll starts).addEntries added).build = .ok ⟨edit.entries.toArray⟩ := by
  rw [Table.build_edited, Table.without_eq ht edit.toList_eq hstarts,
    Table.ofEntries_eq_ok_iff]
  refine ⟨?_, edit.tiling_entries ht⟩
  change List.Perm (edit.before ++ edit.inserted ++ edit.after) _
  rw [List.append_assoc, List.append_assoc]
  exact ((hadded.symm.append_right _).trans List.perm_append_comm).append_left _

end Edit

/-- Replacing a run of entries by others over the same tenors always succeeds, in whatever order the starts
of the run are removed and the others added. It changes what is found at the tenors of the run, and nothing
else. Without any change a table is built again as it was. -/
theorem edit_local {V : Type} {t : Table V} (hrun : Run (.table t)) :
    (∀ (edit : Edit t) (starts : List Tenor) (added : List (Entry V)),
      (∀ s, s ∈ starts ↔ s ∈ edit.removed.map Entry.start) → added.Perm edit.inserted →
      ∃ u, ((t.toBuilder.removeAll starts).addEntries added).build = .ok u ∧
        u.toList = edit.before ++ edit.inserted ++ edit.after ∧
        (∀ tenor, ¬ Within edit.start edit.stop tenor → u.lookup tenor = t.lookup tenor) ∧
        ∀ tenor, Within edit.start edit.stop tenor → ∃ e ∈ edit.inserted,
          e.interval.contains tenor = true ∧ u.lookup tenor = some e.value) ∧
    t.toBuilder.build = .ok t ∧ Table.ofEntries t.toList = .ok t := by
  have htiling : Tiling t.toList := hrun.sound
  refine ⟨?_, Table.build_toBuilder htiling, Table.ofEntries_toList htiling⟩
  intro edit starts added hstarts hadded
  refine ⟨⟨edit.entries.toArray⟩, edit.build_eq_ok htiling hstarts hadded, rfl, ?_, ?_⟩
  · intro tenor hout
    rw [Table.lookup, edit.lookupEntry_outside htiling rfl hout, Table.lookup]
  · intro tenor hin
    obtain ⟨e, he, hcontains, hlookup⟩ :=
      edit.exists_lookupEntry_inside (u := ⟨edit.entries.toArray⟩) htiling rfl hin
    refine ⟨e, he, hcontains, ?_⟩
    rw [Table.lookup, hlookup]
    rfl

/-- The entry from `1Y` to `5Y` is split at `24M`. The tenor `12M` is as long as its start but lies before it,
and `60M` is as long as its stop but still lies in it. -/
theorem edit_local_split : ∃ (t : Table Nat) (edit : Edit t),
    Run (.table t) ∧ t.boundaries = [.years 1, .years 5] ∧
    (∀ s, s ∈ [Tenor.years 1] ↔ s ∈ edit.removed.map Entry.start) ∧
    edit.inserted.reverse.Perm edit.inserted ∧
    ¬ Within edit.start edit.stop (.months 12) ∧ Within edit.start edit.stop (.months 60) ∧
    ∃ u, ((t.toBuilder.removeAll [.years 1]).addEntries edit.inserted.reverse).build = .ok u ∧
      u.boundaries = [.years 1, .months 24, .years 5] ∧
      u.lookup (.months 12) = t.lookup (.months 12) ∧
      ∃ e ∈ edit.inserted, e.interval.contains (.months 60) = true ∧
        u.lookup (.months 60) = some e.value := by
  have htiling : Tiling (⟨#[⟨⟨.zero, some (.years 1), by decide⟩, 1⟩,
      ⟨⟨.years 1, some (.years 5), by decide⟩, 2⟩, ⟨.unbounded (.years 5), 3⟩]⟩ : Table Nat).toList :=
    ⟨rfl, List.isChain_cons_cons.2 ⟨rfl, List.isChain_pair.2 rfl⟩, rfl⟩
  have hrun := Run.of_tiling htiling
  let edit : Edit ⟨#[⟨⟨.zero, some (.years 1), by decide⟩, 1⟩,
      ⟨⟨.years 1, some (.years 5), by decide⟩, 2⟩, ⟨.unbounded (.years 5), 3⟩]⟩ :=
    ⟨[⟨⟨.zero, some (.years 1), by decide⟩, 1⟩], [⟨⟨.years 1, some (.years 5), by decide⟩, 2⟩],
      [⟨.unbounded (.years 5), 3⟩],
      [⟨⟨.years 1, some (.months 24), by decide⟩, 20⟩, ⟨⟨.months 24, some (.years 5), by decide⟩, 21⟩],
      .years 1, some (.years 5), rfl, ⟨rfl, .singleton _, rfl⟩, ⟨rfl, List.isChain_pair.2 rfl, rfl⟩⟩
  have hstarts : ∀ s, s ∈ [Tenor.years 1] ↔ s ∈ edit.removed.map Entry.start := fun s => Iff.rfl
  have hperm := List.reverse_perm edit.inserted
  have hout : ¬ Within edit.start edit.stop (.months 12) := fun h => absurd h.1 (by decide)
  have hin : Within edit.start edit.stop (.months 60) := by
    refine ⟨by decide, fun x hx => ?_⟩
    obtain rfl := Option.some.inj hx
    decide
  obtain ⟨u, hbuild, hentries, houtside, hinside⟩ := (edit_local hrun).1 edit _ _ hstarts hperm
  refine ⟨_, edit, hrun, rfl, hstarts, hperm, hout, hin, u, hbuild, ?_, houtside _ hout, hinside _ hin⟩
  rw [Table.boundaries, hentries]
  rfl

end TermStructure
