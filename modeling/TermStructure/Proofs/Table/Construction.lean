import TermStructure.File.Load
import TermStructure.Proofs.Document.Messages
import TermStructure.Proofs.Document.Segments
import TermStructure.Proofs.Table.Defect

/-!
# Ways to make a table

Segments become a table in a builder, in a document that lists them, and in a file with such a document.
The bounds are checked at another time on each way, yet all ways give the outcome of the builder
(`outcomes_of_build`): the first segment whose bounds are not in order is found before any defect of the
table. A file tells the two apart: the one is an error of its document, the other one of structure
(`construction_agrees`).
-/

namespace TermStructure

variable {V : Type} {β ε : Type}

/-- What becomes of some segments, however they come in: `made` is the outcome in memory and in a document,
`loaded` the outcome of a file with such a document, by its path and format. -/
structure Outcomes (r : Reader V) (ss : List (Segment V)) (made : Except StructureError (Table V))
    (loaded : String → DocumentFormat → Except FileError (Table V)) : Prop where
  build : ∀ b, Filled b ss → b.build = made
  parse : ∀ format text, DocumentFormat.parse format (Decode.segments r) text = .ok ss →
    format.parse (Decode.table r) text = made.mapError (.data ∘ .structural)
  load : ∀ (files : Files) path format text, DocumentFormat.ofPath? path = some format →
    files.read path = .ok text → format.parse (Decode.segments r) text = .ok ss →
    files.table r path = loaded path format
  message : ∀ format e, made = .error e → (DataFault.structural e).message format = e.message

/-- What becomes of some segments with volatilities. -/
structure VolatilityOutcomes (ss : List (Segment Float)) (made : Except StructureError (Table Float))
    (loaded : String → DocumentFormat → Except FileError (Table Float)) : Prop where
  ofSegments : VolatilityTable.ofSegments ss = made.map .ofTable
  parse : ∀ format text, DocumentFormat.parse format (Decode.segments Decode.float) text = .ok ss →
    format.parse Decode.volatilityTable text =
      (made.map .ofTable).mapError (.data ∘ .structural)
  load : ∀ (files : Files) path format text, DocumentFormat.ofPath? path = some format →
    files.read path = .ok text → format.parse (Decode.segments Decode.float) text = .ok ss →
    files.volatilityTable path = (loaded path format).map .ofTable

/-! ## Documents and files -/

namespace DocumentFormat

theorem parse_volatilityTable (format : DocumentFormat) (text : String) :
    format.parse Decode.volatilityTable text =
      (format.parse (Decode.table Decode.float) text).map .ofTable := by
  cases format with
  | json =>
    rw [parse, parse, Json.Document.decode, Json.Document.decode, Decode.volatilityTable]
    cases Decode.table Decode.float .json (Json.read text).root with
    | error e => rfl
    | ok t => cases (Json.read text).complete <;> rfl
  | toml =>
    rw [parse, parse]
    cases Toml.read text <;> rfl

end DocumentFormat

namespace StructureError

variable {es : List (Entry V)} {b : Builder V} {e : StructureError}

theorem isOwn_of_ofEntries (h : Table.ofEntries es = .error e) : e.IsOwn := by
  intro v hv
  rw [Table.ofEntries_eq_error_iff, hv] at h
  cases h

theorem isOwn_of_build (h : b.build = .error e) : e.IsOwn := by
  rw [Builder.build] at h
  by_cases hordered : ∀ s ∈ b.pending, s.Ordered
  · obtain ⟨es, hes⟩ := Builder.exists_entriesOf hordered
    rw [hes] at h
    exact isOwn_of_ofEntries h
  · push Not at hordered
    obtain ⟨start, stop, hfirst⟩ := exists_firstInvalid hordered
    rw [Builder.entriesOf_of_firstInvalid hfirst] at h
    obtain rfl := Except.error.inj h
    exact fun v => by simp

end StructureError

/-! ## Outcomes -/

variable (r : Reader V) (ss : List (Segment V))

/-- All ways give the outcome of the builder. Only a file with a document has its own word for segments
whose bounds are not in order. -/
theorem outcomes_build : Outcomes r ss (Builder.build ⟨ss⟩) fun path format =>
    ((Builder.entriesOf ss).mapError (.document path format ∘ .data ∘ .structural)).bind fun es =>
      (Table.ofEntries es).mapError .structural where
  build b hb := by
    obtain rfl := hb.pending
    rfl
  parse format text htext := by
    rw [DocumentFormat.parse_of_check (fun t => Decode.table_of_segments) htext]
    cases Builder.build ⟨ss⟩ <;> rfl
  load files path format text hformat hread htext := by
    rw [Files.table, Files.document_eq _ hformat hread,
      DocumentFormat.parse_of_check (fun t => Decode.entries_of_segments "TableFile") htext]
    cases Builder.entriesOf ss <;> rfl
  message format e he := DataFault.message_structural format (StructureError.isOwn_of_build he)

variable {r ss}

/-- Volatilities become what other values become. -/
theorem Outcomes.volatility {ss : List (Segment Float)} {made : Except StructureError (Table Float)}
    {loaded : String → DocumentFormat → Except FileError (Table Float)}
    (h : Outcomes Decode.float ss made loaded) : VolatilityOutcomes ss made loaded where
  ofSegments := by
    have hfilled := filled_pushAll .empty ss
    rw [List.nil_append] at hfilled
    rw [VolatilityTable.ofSegments, h.build _ hfilled]
  parse format text htext := by
    rw [DocumentFormat.parse_volatilityTable, h.parse format text htext]
    cases made <;> rfl
  load files path format text hformat hread htext := by
    rw [Files.volatilityTable, h.load files path format text hformat hread htext]

/-- All ways to make a table of some segments agree. If the bounds of some are not in order, the error is
the one of the first of these, and a file has it as an error of its document. Otherwise all ways do what
making a table of the entries does. The document that is written for segments lists them. -/
theorem construction_agrees :
    (∀ (V : Type) (r : Reader V) (ss : List (Segment V)),
      ((∃ s ∈ ss, ¬ s.Ordered) → ∃ start stop, FirstInvalid ss start stop ∧
        Outcomes r ss (.error (.invalidInterval start stop)) fun path format =>
          .error (.document path format (.data (.structural (.invalidInterval start stop))))) ∧
      ((∀ s ∈ ss, s.Ordered) → ∃ es, es.map Segment.ofEntry = ss ∧
        Outcomes r ss (Table.ofEntries es) fun _ _ => (Table.ofEntries es).mapError .structural) ∧
      ∀ value : V → Tree,
        (∀ s ∈ ss, DocumentFormat.json.parse r (Json.compact (value s.value)) = .ok s.value) →
        DocumentFormat.json.parse (Decode.segments r) (Json.compact (Encode.segments value ss)) =
          .ok ss) ∧
    ∀ ss made loaded, Outcomes Decode.float ss made loaded → VolatilityOutcomes ss made loaded := by
  refine ⟨fun V r ss => ⟨fun hinvalid => ?_, fun hordered => ?_, fun value => Encode.parse_segments⟩,
    fun ss made loaded => Outcomes.volatility⟩
  · obtain ⟨start, stop, hfirst⟩ := exists_firstInvalid hinvalid
    have houtcomes := outcomes_build r ss
    simp only [Builder.build, Builder.entriesOf_of_firstInvalid hfirst] at houtcomes
    exact ⟨start, stop, hfirst, houtcomes⟩
  · obtain ⟨es, hes⟩ := Builder.exists_entriesOf hordered
    have houtcomes := outcomes_build r ss
    simp only [Builder.build, hes] at houtcomes
    exact ⟨es, Builder.entriesOf_eq_ok_iff.1 hes, houtcomes⟩

/-- Segments that miss the origin, the second of which ends where it starts. -/
def crossedSegments : List (Segment String) :=
  [⟨.years 1, some (.years 2), "low"⟩, ⟨.years 2, some (.months 24), "high"⟩]

/-- The bounds of the second segment are found before the missing origin, in memory, in a document and in
a file. -/
theorem construction_agrees_crossed :
    (∃ s ∈ crossedSegments, ¬ s.Ordered) ∧
    (∀ s ∈ crossedSegments,
      DocumentFormat.json.parse Decode.string (Json.compact (.ofText s.value)) = .ok s.value) ∧
    Builder.build ⟨crossedSegments⟩ = .error (.invalidInterval (.years 2) (.months 24)) ∧
    DocumentFormat.json.parse (Decode.table Decode.string)
      (Json.compact (Encode.segments .ofText crossedSegments)) =
      .error (.data (.structural (.invalidInterval (.years 2) (.months 24)))) ∧
    Files.table ⟨fun _ => .ok (Json.compact (Encode.segments .ofText crossedSegments)), fun _ => true⟩
      Decode.string "rates.json" =
      .error (.document "rates.json" .json
        (.data (.structural (.invalidInterval (.years 2) (.months 24))))) := by
  have hinvalid : ∃ s ∈ crossedSegments, ¬ s.Ordered := by
    refine ⟨⟨.years 2, some (.months 24), "high"⟩, by simp [crossedSegments], fun h => ?_⟩
    exact absurd (h (.months 24) rfl) (by decide)
  have hvalues : ∀ s ∈ crossedSegments,
      DocumentFormat.json.parse Decode.string (Json.compact (.ofText s.value)) = .ok s.value :=
    fun s _ => DocumentFormat.parse_json_eq_ok_iff.2
      ⟨_, Json.readsBack_iff.1 (.ofText s.value), rfl⟩
  obtain ⟨hfirst, -, hwritten⟩ := construction_agrees.1 String Decode.string crossedSegments
  obtain ⟨start, stop, hfirst, houtcomes⟩ := hfirst hinvalid
  have htext := hwritten .ofText hvalues
  have hbounds : Except.error (.invalidInterval start stop) =
      (Except.error (.invalidInterval (.years 2) (.months 24)) :
        Except StructureError (List (Entry String))) :=
    (Builder.entriesOf_of_firstInvalid hfirst).symm.trans rfl
  simp only [Except.error.injEq, StructureError.invalidInterval.injEq] at hbounds
  obtain ⟨rfl, rfl⟩ := hbounds
  refine ⟨hinvalid, hvalues, houtcomes.build _ ?_, houtcomes.parse .json _ htext,
    houtcomes.load _ "rates.json" .json _ (by decide) rfl htext⟩
  exact (Filled.empty.segment _ _ _).segment _ _ _

end TermStructure
