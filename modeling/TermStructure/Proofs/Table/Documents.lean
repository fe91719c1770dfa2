import TermStructure.Proofs.Table.Construction

/-!
# Tables in documents

A table is written as the list of its entries, in their order and without the ends of those that are
unbounded. This is the document that lists the segments of the table (`Encode.table_eq_segments`), and
what is built of these segments is the table again, since a table is a tiling. So a table is restored if
the values of its entries are (`restored_table`), whether the document is read as a table at once or as the
entries of a file (`load_table`).
-/

namespace TermStructure

variable {V : Type} {r : Reader V} {value : V → Tree}

/-! ## Intervals and entries -/

theorem restored_interval (i : Interval) : Restored Decode.interval Encode.interval i := by
  have hback : Json.ReadsBack (Encode.interval i) (Encode.interval i) :=
    .ofMembers (Encode.bounds_readsBack i.start i.stop)
  have hread : Decode.Fields.read (⟨"IntervalDocument", [Decode.startField, Decode.stopField], false⟩ :
      Decode.Fields (Decode.EntryParts Unit)) {} .json (Encode.interval i) =
      .ok ⟨some i.start, i.stop, none⟩ := by
    rw [Encode.interval, Decode.read_ofMembers, ← List.append_nil (List.map _ _)]
    exact Encode.members_bounds .json rfl rfl fun seen _ => rfl
  have hbounds : Interval.ofBounds i.start i.stop = .ok i := Interval.ofBounds_eq_ok_iff.2 ⟨rfl, rfl⟩
  refine restored_iff.2 ⟨_, hback, ?_⟩
  rw [Decode.interval, hread]
  change Decode.check .structural (Interval.ofBounds i.start i.stop) = .ok i
  rw [hbounds]
  rfl

theorem Encode.entry_eq_segment (e : Entry V) :
    Encode.entry value e = Encode.segment value (Segment.ofEntry e) :=
  rfl

theorem restored_entry {e : Entry V} (h : Restored r value e.value) :
    Restored (Decode.entry r) (Encode.entry value) e := by
  obtain ⟨u, hread, hu⟩ := restored_iff.1 (Encode.restored_segment (s := Segment.ofEntry e) h)
  rw [← Encode.entry_eq_segment] at hread
  refine restored_iff.2 ⟨u, hread, ?_⟩
  rw [Decode.entry_eq, hu]
  exact Decode.check_eq_ok_iff.2 (Segment.toEntry_eq_ok_iff.2 rfl)

/-! ## Tables -/

theorem Encode.table_eq_segments (t : Table V) :
    Encode.table value t = Encode.segments value (t.toList.map Segment.ofEntry) := by
  rw [Encode.table, Encode.segments, List.map_map]
  rfl

/-- The document of a table lists the segments of its entries. -/
theorem parse_segments_table {t : Table V} (h : ∀ e ∈ t.toList, Restored r value e.value) :
    DocumentFormat.json.parse (Decode.segments r) (Json.compact (Encode.table value t)) =
      .ok (t.toList.map Segment.ofEntry) := by
  rw [Encode.table_eq_segments]
  refine Encode.parse_segments fun s hs => ?_
  obtain ⟨e, he, rfl⟩ := List.mem_map.1 hs
  exact h e he

/-- The segments of a table are built to this table, in a document and in a file. -/
theorem outcomes_table (r : Reader V) {t : Table V} (htiling : Tiling t.toList) :
    Outcomes r (t.toList.map Segment.ofEntry) (.ok t) fun _ _ => .ok t := by
  have hentries : Builder.entriesOf (t.toList.map Segment.ofEntry) = .ok t.toList :=
    Builder.entriesOf_eq_ok_iff.2 rfl
  have hmade : Table.ofEntries t.toList = .ok t := Table.ofEntries_toList htiling
  have houtcomes := outcomes_build r (t.toList.map Segment.ofEntry)
  simp only [Builder.build, hentries, Except.mapError, Except.bind, hmade] at houtcomes
  exact houtcomes

/-- What is written for a table is this table, as a document and in a file. -/
structure TableRestored (r : Reader V) (value : V → Tree) (t : Table V) : Prop where
  parse : Restored (Decode.table r) (Encode.table value) t
  load : ∀ (files : Files) (path : String), DocumentFormat.ofPath? path = some .json →
    files.read path = .ok (Json.compact (Encode.table value t)) → files.table r path = .ok t

theorem restored_table {t : Table V} (htiling : Tiling t.toList)
    (h : ∀ e ∈ t.toList, Restored r value e.value) : TableRestored r value t where
  parse := (outcomes_table r htiling).parse .json _ (parse_segments_table h)
  load files path hformat hread :=
    (outcomes_table r htiling).load files path .json _ hformat hread (parse_segments_table h)

/-- What is written for volatilities is this table of volatilities, as a document and in a file. -/
structure VolatilityRestored (v : VolatilityTable) : Prop where
  parse : Restored Decode.volatilityTable Encode.volatilityTable v
  load : ∀ (files : Files) (path : String), DocumentFormat.ofPath? path = some .json →
    files.read path = .ok (Json.compact (Encode.volatilityTable v)) →
    files.volatilityTable path = .ok v

theorem restored_volatilityTable {v : VolatilityTable} (htiling : Tiling v.table.toList)
    (h : ∀ e ∈ v.table.toList, Restored Decode.float .ofFloat e.value) : VolatilityRestored v where
  parse := (outcomes_table Decode.float htiling).volatility.parse .json _ (parse_segments_table h)
  load files path hformat hread :=
    (outcomes_table Decode.float htiling).volatility.load files path .json _ hformat hread
      (parse_segments_table h)

/-! ## Documents -/

/-- Intervals, entries and tables are restored from the documents that are written for them, if the values
are, and integers of 64 bits and texts are. The end of an unbounded interval is not written. A double that
is no number is written as null and is not read again. -/
theorem documents_restored :
    (∀ t : Table Int, Tiling t.toList →
      (∀ e ∈ t.toList, -2 ^ 63 ≤ e.value ∧ e.value < 2 ^ 63) →
      TableRestored Decode.int64 Encode.int t) ∧
    (∀ t : Table String, Tiling t.toList → TableRestored Decode.string .ofText t) ∧
    (∀ t : Table Float, Tiling t.toList →
      (∀ e ∈ t.toList, Restored Decode.float .ofFloat e.value) →
      TableRestored Decode.float .ofFloat t) ∧
    (∀ v : VolatilityTable, Tiling v.table.toList →
      (∀ e ∈ v.table.toList, Restored Decode.float .ofFloat e.value) → VolatilityRestored v) ∧
    (∀ (V : Type) (r : Reader V) (value : V → Tree),
      (∀ t : Table V, Tiling t.toList → (∀ e ∈ t.toList, Restored r value e.value) →
        TableRestored r value t) ∧
      (∀ e : Entry V, Restored r value e.value → Restored (Decode.entry r) (Encode.entry value) e) ∧
      ∀ e : Entry V, e.stop = none → Json.compact (Encode.entry value e) =
        Json.compact (.ofMembers [("start", Encode.tenor e.start), ("value", value e.value)])) ∧
    (∀ i, Restored Decode.interval Encode.interval i ∧
      (i.stop = none → Json.compact (Encode.interval i) =
        Json.compact (.ofMembers [("start", Encode.tenor i.start)]))) ∧
    (∀ n, -2 ^ 63 ≤ n → n < 2 ^ 63 → Restored Decode.int64 Encode.int n) ∧
    (∀ s, Restored Decode.string .ofText s) ∧
    ∀ x : Float, x.isFinite = false → Json.compact (.ofFloat x) = "null" ∧
      DocumentFormat.json.parse Decode.float (Json.compact (.ofFloat x)) =
        .error (.data (.wrongType .null "f64")) := by
  refine ⟨fun t htiling hvalues => ?_, fun t htiling => ?_, fun t => restored_table,
    fun v => restored_volatilityTable, fun V r value => ⟨fun t => restored_table,
      fun e => restored_entry, fun e hstop => ?_⟩, fun i => ⟨restored_interval i, fun hstop => ?_⟩,
    fun n => .int64, .string, fun x hx => ⟨?_, Restored.parse_notFinite hx⟩⟩
  · exact restored_table htiling fun e he => .int64 (hvalues e he).1 (hvalues e he).2
  · exact restored_table htiling fun e _ => .string e.value
  · rw [Entry.stop] at hstop
    rw [Encode.entry, Encode.bounds, hstop]
    rfl
  · rw [Encode.interval, Encode.bounds, hstop]
    rfl
  · rw [Json.compact, Json.compactChars_notFinite hx]

/-- One value for eighteen months and another one from then on. -/
def twoSteps (low high : V) : Table V :=
  ⟨#[⟨⟨.zero, some (.months 18), by decide⟩, low⟩, ⟨.unbounded (.months 18), high⟩]⟩

theorem tiling_twoSteps (low high : V) : Tiling (twoSteps low high).toList where
  origin := rfl
  contiguous := by simp [twoSteps, Table.toList, Entry.start, Entry.stop, Interval.unbounded]
  unbounded := rfl

/-- The least and the greatest integer, texts with quotes and line ends, and volatilities are restored; an
infinite double is not. -/
theorem documents_restored_extremes :
    (Tiling (twoSteps (-2 ^ 63) (2 ^ 63 - 1)).toList ∧
      (∀ e ∈ (twoSteps (-2 ^ 63) (2 ^ 63 - 1)).toList, -2 ^ 63 ≤ e.value ∧ e.value < 2 ^ 63) ∧
      TableRestored Decode.int64 Encode.int (twoSteps (-2 ^ 63) (2 ^ 63 - 1))) ∧
    (Tiling (twoSteps "a \"b\"\n" "\\ü").toList ∧
      TableRestored Decode.string .ofText (twoSteps "a \"b\"\n" "\\ü")) ∧
    (Tiling (twoSteps 0.0125 0.5).toList ∧
      (∀ e ∈ (twoSteps 0.0125 0.5).toList, Restored Decode.float .ofFloat e.value) ∧
      VolatilityRestored (.ofTable (twoSteps 0.0125 0.5))) ∧
    Float.isFinite (1 / 0) = false ∧
    DocumentFormat.json.parse Decode.float (Json.compact (.ofFloat (1 / 0))) =
      .error (.data (.wrongType .null "f64")) := by
  have hints : ∀ e ∈ (twoSteps (-2 ^ 63) (2 ^ 63 - 1)).toList, -2 ^ 63 ≤ e.value ∧ e.value < 2 ^ 63 := by
    simp [twoSteps, Table.toList]
  have hfloats : ∀ e ∈ (twoSteps 0.0125 0.5).toList, Restored Decode.float .ofFloat e.value := by
    have hlow : Restored Decode.float .ofFloat 0.0125 := by
      unfold Restored
      decide +kernel
    have hhigh : Restored Decode.float .ofFloat 0.5 := by
      unfold Restored
      decide +kernel
    simpa [twoSteps, Table.toList] using ⟨hlow, hhigh⟩
  have hinfinite : Float.isFinite (1 / 0) = false := by decide +kernel
  obtain ⟨hint, htext, -, hvolatility, -, -, -, -, hfinite⟩ := documents_restored
  exact ⟨⟨tiling_twoSteps _ _, hints, hint _ (tiling_twoSteps _ _) hints⟩,
    ⟨tiling_twoSteps _ _, htext _ (tiling_twoSteps _ _)⟩,
    ⟨tiling_twoSteps _ _, hfloats, hvolatility (.ofTable _) (tiling_twoSteps _ _) hfloats⟩,
    hinfinite, (hfinite _ hinfinite).2⟩

end TermStructure
