import TermStructure.Proofs.Document.Outcome
import TermStructure.Proofs.Table.Tiling

/-!
# Runs of table operations

A program comes by tables in many ways: it makes one of entries, builds one of segments, reads one
from a document or a file, changes the values of one, takes one apart to edit and rebuild it, or
wraps and unwraps volatilities. `Run h` says that `h` is at hand after some such operations, of any
number and on values of any type.

Operations either validate entries or keep intervals, so all tables of runs are tilings
(`Run.sound`); their full invariant is `Table.WellFormed`.
-/

namespace TermStructure

/-! ## The operations -/

/-- What is at hand between two operations. -/
inductive Holding : Type 1 where
  | builder {V : Type} (b : Builder V)
  | table {V : Type} (t : Table V)
  | volatilities (v : VolatilityTable)

/-- What can be made from scratch. -/
inductive Source : Holding → Prop where
  | builder {V : Type} : Source (.builder (Builder.empty : Builder V))
  | entries {V : Type} {es : List (Entry V)} {t : Table V} :
    Table.ofEntries es = .ok t → Source (.table t)
  | volatilityEntries {es : List (Entry Float)} {v : VolatilityTable} :
    VolatilityTable.ofEntries es = .ok v → Source (.volatilities v)
  | segments {ss : List (Segment Float)} {v : VolatilityTable} :
    VolatilityTable.ofSegments ss = .ok v → Source (.volatilities v)
  | document {V : Type} {format : DocumentFormat} {r : Reader V} {text : String} {t : Table V} :
    format.parse (Decode.table r) text = .ok t → Source (.table t)
  | volatilityDocument {format : DocumentFormat} {text : String} {v : VolatilityTable} :
    format.parse Decode.volatilityTable text = .ok v → Source (.volatilities v)
  | part {V : Type} {format : DocumentFormat} {r : Reader V} {tree : Tree} {t : Table V} :
    Decode.table r format tree = .ok t → Source (.table t)
  | file {V : Type} {files : Files} {r : Reader V} {path : String} {t : Table V} :
    files.table r path = .ok t → Source (.table t)
  | volatilityFile {files : Files} {path : String} {v : VolatilityTable} :
    files.volatilityTable path = .ok v → Source (.volatilities v)

/-- What one operation makes of what is at hand. -/
inductive Step : Holding → Holding → Prop where
  | push {V : Type} (b : Builder V) (start : Tenor) (stop : Option Tenor) (value : V) :
    Step (.builder b) (.builder (b.push start stop value))
  | segment {V : Type} (b : Builder V) (start stop : Tenor) (value : V) :
    Step (.builder b) (.builder (b.segment start stop value))
  | tail {V : Type} (b : Builder V) (start : Tenor) (value : V) :
    Step (.builder b) (.builder (b.tail start value))
  | entry {V : Type} (b : Builder V) (e : Entry V) : Step (.builder b) (.builder (b.entry e))
  | addEntries {V : Type} (b : Builder V) (es : List (Entry V)) :
    Step (.builder b) (.builder (b.addEntries es))
  | remove {V : Type} (b : Builder V) (start : Tenor) :
    Step (.builder b) (.builder (b.remove start))
  | build {V : Type} {b : Builder V} {t : Table V} :
    b.build = .ok t → Step (.builder b) (.table t)
  | toBuilder {V : Type} (t : Table V) : Step (.table t) (.builder t.toBuilder)
  | map {V W : Type} (f : V → W) (t : Table V) : Step (.table t) (.table (t.map f))
  | mapWith {V W S : Type} (f : V → S → W × S) (s : S) (t : Table V) :
    Step (.table t) (.table (t.mapWith f s))
  | ofEntries {V : Type} {t u : Table V} :
    Table.ofEntries t.toList = .ok u → Step (.table t) (.table u)
  | ofTable (t : Table Float) : Step (.table t) (.volatilities (.ofTable t))
  | toTable (v : VolatilityTable) : Step (.volatilities v) (.table v.table)

/-- What is at hand after any number of operations. -/
inductive Run : Holding → Prop where
  | source {h : Holding} : Source h → Run h
  | step {h k : Holding} : Run h → Step h k → Run k

/-! ## Tables of runs are tilings -/

variable {V W : Type}

namespace Table

theorem tiling_of_ofEntries {es : List (Entry V)} {t : Table V} (h : ofEntries es = .ok t) :
    Tiling t.toList :=
  (ofEntries_eq_ok_iff.1 h).2

theorem tiling_of_build {b : Builder V} {t : Table V} (h : b.build = .ok t) : Tiling t.toList :=
  (Builder.build_eq_ok_iff.1 h).2

theorem tiling_map (f : V → W) {t : Table V} (h : Tiling t.toList) : Tiling (t.map f).toList := by
  refine h.of_intervals ?_
  simp [Table.toList, Table.map, Entry.map, Function.comp_def]

theorem interval_mapEntriesWith {S : Type} (f : V → S → W × S) (es : List (Entry V)) (s : S) :
    (mapEntriesWith f es s).map Entry.interval = es.map Entry.interval := by
  induction es generalizing s with
  | nil => rfl
  | cons e rest ih => rw [mapEntriesWith, List.map_cons, ih, List.map_cons]

theorem tiling_mapWith {S : Type} (f : V → S → W × S) (s : S) {t : Table V} (h : Tiling t.toList) :
    Tiling (t.mapWith f s).toList :=
  h.of_intervals (interval_mapEntriesWith f t.toList s)

end Table

/-- Tables, also those of volatilities, are tilings. -/
def Holding.Sound : Holding → Prop
  | .builder _ => True
  | .table t => Tiling t.toList
  | .volatilities v => Tiling v.table.toList

theorem Source.sound {h : Holding} (hs : Source h) : h.Sound := by
  cases hs with
  | builder => trivial
  | entries h => exact Table.tiling_of_ofEntries h
  | volatilityEntries h =>
    obtain ⟨t, ht, rfl⟩ := Outcome.map_eq_ok_iff.1 h
    exact Table.tiling_of_ofEntries ht
  | segments h =>
    obtain ⟨t, ht, rfl⟩ := Outcome.map_eq_ok_iff.1 h
    exact Table.tiling_of_build ht
  | document h =>
    obtain ⟨tree, htree⟩ := DocumentFormat.exists_tree_of_parse h
    obtain ⟨es, -, hes⟩ := Decode.exists_entries_of_table htree
    exact Table.tiling_of_ofEntries hes
  | volatilityDocument h =>
    obtain ⟨tree, htree⟩ := DocumentFormat.exists_tree_of_parse h
    obtain ⟨t, ht, rfl⟩ := Outcome.map_eq_ok_iff.1 htree
    obtain ⟨es, -, hes⟩ := Decode.exists_entries_of_table ht
    exact Table.tiling_of_ofEntries hes
  | part h =>
    obtain ⟨es, -, hes⟩ := Decode.exists_entries_of_table h
    exact Table.tiling_of_ofEntries hes
  | file h =>
    obtain ⟨es, -, hes⟩ := Files.exists_entries_of_table h
    exact Table.tiling_of_ofEntries hes
  | volatilityFile h =>
    obtain ⟨t, ht, rfl⟩ := Outcome.map_eq_ok_iff.1 h
    obtain ⟨es, -, hes⟩ := Files.exists_entries_of_table ht
    exact Table.tiling_of_ofEntries hes

/-- An operation either validates entries or keeps the intervals of a table. -/
theorem Step.sound {h k : Holding} (hstep : Step h k) (hs : h.Sound) : k.Sound := by
  cases hstep with
  | push | segment | tail | entry | addEntries | remove | toBuilder => trivial
  | build h => exact Table.tiling_of_build h
  | map f t => exact Table.tiling_map f hs
  | mapWith f s t => exact Table.tiling_mapWith f s hs
  | ofEntries h => exact Table.tiling_of_ofEntries h
  | ofTable t => exact hs
  | toTable v => exact hs

theorem Run.sound {h : Holding} (hr : Run h) : h.Sound := by
  induction hr with
  | source hs => exact hs.sound
  | step _ hstep ih => exact hstep.sound ih

/-- All tilings are tables of runs. -/
theorem Run.of_tiling {t : Table V} (h : Tiling t.toList) : Run (.table t) :=
  .source (.entries (Table.ofEntries_toList h))

/-! ## The invariant of tables -/

/-- What holds of the entries of a table. -/
structure Table.WellFormed (t : Table V) : Prop where
  nonempty : t.toList ≠ []
  origin : ∀ e ∈ t.toList.head?, e.start = Tenor.zero
  contiguous : t.toList.IsChain fun a b => a.stop = some b.start
  bounded : ∀ e ∈ t.toList.dropLast, e.stop ≠ none
  unbounded : ∀ e ∈ t.toList.getLast?, e.stop = none
  increasing : t.toList.Pairwise fun a b => b.start.longerThan a.start

theorem Tiling.wellFormed {t : Table V} (h : Tiling t.toList) : t.WellFormed where
  nonempty := h.ne_nil
  origin e he := by
    have horigin := h.origin
    rw [Option.mem_def.1 he] at horigin
    exact Option.some.inj horigin
  contiguous := h.contiguous
  bounded e he := by
    obtain ⟨f, -, hstop⟩ := h.exists_next he
    rw [hstop]
    exact Option.some_ne_none _
  unbounded e he := by
    have hunbounded := h.unbounded
    rw [Option.mem_def.1 he] at hunbounded
    exact Option.some.inj hunbounded
  increasing := h.pairwise_length.imp fun hlt => Tenor.longerThan_eq_true.2 hlt

/-- Starts of equal length, such as `12M` and `1Y`, belong to one entry. -/
theorem Tiling.eq_of_length_eq {es : List (Entry V)} (h : Tiling es) {a b : Entry V} (ha : a ∈ es)
    (hb : b ∈ es) (hlength : a.start.length = b.start.length) : a = b := by
  have hnodup : (es.map fun e => e.start.length).Nodup := by
    rw [List.nodup_iff_pairwise_ne, List.pairwise_map]
    exact h.pairwise_length.imp Nat.ne_of_lt
  exact List.inj_on_of_nodup_map hnodup ha hb hlength

/-- The tables of runs of any length have the invariant, and no two of their starts have one
length. -/
theorem wellFormed_of_run {t : Table V} (h : Run (.table t)) :
    t.WellFormed ∧
      ∀ a ∈ t.toList, ∀ b ∈ t.toList, a.start.sameLength b.start = true → a = b := by
  have htiling : Tiling t.toList := h.sound
  refine ⟨htiling.wellFormed, ?_⟩
  intro a ha b hb hlength
  exact htiling.eq_of_length_eq ha hb (Tenor.sameLength_eq_true.1 hlength)

/-- A table that is built, changed in its values, taken apart, edited and built again. -/
theorem wellFormed_of_run_edited :
    ∃ t : Table Nat, t.toList.map Entry.start = [.zero, .months 12, .years 5] ∧
      Run (.table t) ∧ t.WellFormed ∧
      ∀ a ∈ t.toList, ∀ b ∈ t.toList, a.start.sameLength b.start = true → a = b := by
  have hpending := Run.step (.step (.source .builder) (.tail _ (.months 12) 2))
    (.segment _ .zero (.months 12) 1)
  have hbuilt : Run (.table (⟨#[⟨⟨.zero, some (.months 12), by decide⟩, 1⟩,
      ⟨.unbounded (.months 12), 2⟩]⟩ : Table Nat)) := by
    refine .step hpending (.build (Builder.build_eq_ok_iff.2 ⟨?_, rfl, ?_, rfl⟩))
    · exact .swap _ _ _
    · exact List.isChain_pair.2 rfl
  have hchanged := Run.step hbuilt (.mapWith (fun x n => (10 * x + n, n + 1)) 0 _)
  have hedited := Run.step (.step (.step (.step hchanged (.toBuilder _)) (.remove _ (.months 12)))
    (.tail _ (.years 5) 30)) (.segment _ (.months 12) (.years 5) 20)
  have hrun : Run (.table (⟨#[⟨⟨.zero, some (.months 12), by decide⟩, 10⟩,
      ⟨⟨.months 12, some (.years 5), by decide⟩, 20⟩,
      ⟨.unbounded (.years 5), 30⟩]⟩ : Table Nat)) := by
    refine .step hedited (.build (Builder.build_eq_ok_iff.2 ⟨?_, rfl, ?_, rfl⟩))
    · exact .cons _ (.swap _ _ _)
    · exact List.isChain_cons_cons.2 ⟨rfl, List.isChain_pair.2 rfl⟩
  exact ⟨_, rfl, hrun, wellFormed_of_run hrun⟩

end TermStructure
