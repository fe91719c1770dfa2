import TermStructure.File.Load
import TermStructure.Proofs.Curve.Draft
import TermStructure.Proofs.Document.Messages
import TermStructure.Proofs.Document.Outcome
import TermStructure.Proofs.Tenor.Order

/-!
# Curve inputs

A draft becomes an input if it has all mandatory fields and quotes no length for both instruments;
otherwise the first missing field or the common tenors are the error (`CurveDraft.validated_build`). It
does not matter how the fields came in, so all inputs have these properties (`curve_validation`).
-/

namespace TermStructure

/-! ## Common tenors -/

namespace Quotes

variable {a b : Quotes} {t : Tenor} {ts us : List Tenor}

theorem pairwise_tenors (q : Quotes) : q.tenors.Pairwise (· < ·) :=
  List.pairwise_map.2 q.ascending

/-- The tenors of `a` that have the length of a tenor of `b`, ascending and without repetition. -/
structure Overlap (a b : Quotes) (ts : List Tenor) : Prop where
  ascending : ts.Pairwise (· < ·)
  mem_iff : ∀ t, t ∈ ts ↔ t ∈ a.tenors ∧ ∃ u ∈ b.tenors, u.length = t.length

theorem overlap_commonTenors (a b : Quotes) : Overlap a b (a.commonTenors b) where
  ascending := a.pairwise_tenors.filter _
  mem_iff t := by
    simp only [commonTenors, List.mem_filter, List.any_eq_true, Tenor.sameLength_eq_true]

theorem Overlap.unique (hts : Overlap a b ts) (hus : Overlap a b us) : ts = us := by
  have hperm : ts.Perm us := (List.perm_ext_iff_of_nodup (hts.ascending.imp ne_of_lt)
    (hus.ascending.imp ne_of_lt)).2 fun t => (hts.mem_iff t).trans (hus.mem_iff t).symm
  exact hperm.eq_of_pairwise (fun _ _ _ _ hab hba => absurd hab (lt_asymm hba)) hts.ascending
    hus.ascending

/-- No tenor of the one set has the length of a tenor of the other one. -/
def Apart (a b : Quotes) : Prop :=
  ∀ t ∈ a.tenors, ∀ u ∈ b.tenors, t.length ≠ u.length

theorem Apart.symm (h : Apart a b) : Apart b a :=
  fun t ht u hu => (h u hu t ht).symm

theorem Overlap.not_apart (h : Overlap a b ts) (hne : ts ≠ []) : ¬ Apart a b := by
  intro hapart
  obtain ⟨t, ht⟩ := List.exists_mem_of_ne_nil ts hne
  obtain ⟨hmem, u, hu, heq⟩ := (h.mem_iff t).1 ht
  exact hapart t hmem u hu heq.symm

theorem commonTenors_eq_nil_iff : a.commonTenors b = [] ↔ Apart a b := by
  have hoverlap := overlap_commonTenors a b
  constructor
  · intro hnil t ht u hu heq
    have hmem := (hoverlap.mem_iff t).2 ⟨ht, u, hu, heq.symm⟩
    simp [hnil] at hmem
  · intro hapart
    rw [List.eq_nil_iff_forall_not_mem]
    intro t ht
    obtain ⟨hmem, u, hu, heq⟩ := (hoverlap.mem_iff t).1 ht
    exact hapart t hmem u hu heq.symm

theorem commonTenors_comm_nil : a.commonTenors b = [] ↔ b.commonTenors a = [] := by
  rw [commonTenors_eq_nil_iff, commonTenors_eq_nil_iff]
  exact ⟨Apart.symm, Apart.symm⟩

end Quotes

/-! ## Validation -/

/-- The mandatory fields in the order in which they are looked at. -/
def CurveField.all : List CurveField :=
  [currency, curveDayCount, convention, cashDayCount, swapDayCount, spotDate, fixedLegInterval, cash,
    swap]

namespace CurveDraft

variable {d : CurveDraft} {i : CurveInput} {e : StructureError}

/-- The first mandatory field that a draft lacks. -/
def firstMissing? (d : CurveDraft) : Option CurveField :=
  CurveField.all.find? fun f => (d.setting? (some f)).isNone

/-- The outcome of a draft: an error names the first missing field or, if there is none, the cash tenors
with the length of a swap tenor; otherwise the input has exactly the fields of the draft. -/
structure Validated (d : CurveDraft) (r : Except StructureError CurveInput) : Prop where
  missing : ∀ f, r = .error (.missingField f) ↔ d.firstMissing? = some f
  overlapping : ∀ ts, r = .error (.overlappingTenors ts) ↔
    ∃ i : CurveInput, i.toDraft = d ∧ ts ≠ [] ∧ Quotes.Overlap i.cash i.swap ts
  ok : ∀ i, r = .ok i ↔ i.toDraft = d ∧ Quotes.Apart i.cash i.swap
  error : ∀ e, r = .error e → (∃ f, e = .missingField f) ∨ ∃ ts, e = .overlappingTenors ts

/-- A draft lacks a field, and the first one is the error, or it is the draft of an input. -/
theorem complete_cases (d : CurveDraft) :
    (∃ f, d.firstMissing? = some f ∧ d.complete = .error (.missingField f)) ∨
      ∃ i : CurveInput, i.toDraft = d := by
  -- Field by field in the order of validation, so that all fields before a missing one are there.
  obtain ⟨_ | currency, curveDayCount, convention, cashDayCount, swapDayCount, spotDate, region,
    fixedLegInterval, cash, swap⟩ := d
  · exact .inl ⟨.currency, rfl, rfl⟩
  obtain _ | curveDayCount := curveDayCount
  · exact .inl ⟨.curveDayCount, rfl, rfl⟩
  obtain _ | convention := convention
  · exact .inl ⟨.convention, rfl, rfl⟩
  obtain _ | cashDayCount := cashDayCount
  · exact .inl ⟨.cashDayCount, rfl, rfl⟩
  obtain _ | swapDayCount := swapDayCount
  · exact .inl ⟨.swapDayCount, rfl, rfl⟩
  obtain _ | spotDate := spotDate
  · exact .inl ⟨.spotDate, rfl, rfl⟩
  obtain _ | fixedLegInterval := fixedLegInterval
  · exact .inl ⟨.fixedLegInterval, rfl, rfl⟩
  obtain _ | cash := cash
  · exact .inl ⟨.cash, rfl, rfl⟩
  obtain _ | swap := swap
  · exact .inl ⟨.swap, rfl, rfl⟩
  · exact .inr ⟨⟨currency, curveDayCount, convention, cashDayCount, swapDayCount, spotDate, region,
      fixedLegInterval, cash, swap⟩, rfl⟩

theorem toDraft_injective {j : CurveInput} (h : i.toDraft = j.toDraft) : i = j := by
  cases i
  cases j
  simpa [CurveInput.toDraft] using h

theorem firstMissing?_toDraft (i : CurveInput) : i.toDraft.firstMissing? = none :=
  rfl

/-- The outcome of the draft of an input hangs on the common tenors only. -/
theorem build_toDraft (i : CurveInput) :
    (Quotes.Apart i.cash i.swap ∧ i.toDraft.build = .ok i) ∨
      ∃ ts, Quotes.Overlap i.cash i.swap ts ∧ ts ≠ [] ∧
        i.toDraft.build = .error (.overlappingTenors ts) := by
  have hcomplete : i.toDraft.complete = .ok i := rfl
  cases hcommon : i.cash.commonTenors i.swap with
  | nil =>
    refine .inl ⟨Quotes.commonTenors_eq_nil_iff.1 hcommon, ?_⟩
    simp only [build, hcomplete, hcommon]
  | cons t ts =>
    refine .inr ⟨t :: ts, hcommon ▸ Quotes.overlap_commonTenors _ _, List.cons_ne_nil t ts, ?_⟩
    simp only [build, hcomplete, hcommon]

theorem validated_of_missing {f : CurveField} (hmissing : d.firstMissing? = some f) :
    Validated d (.error (.missingField f)) := by
  have hnot : ∀ j : CurveInput, j.toDraft ≠ d := by
    rintro j rfl
    simp [firstMissing?_toDraft] at hmissing
  refine ⟨fun g => ?_, fun ts => ?_, fun j => ?_, fun e he => .inl ⟨f, (Except.error.inj he).symm⟩⟩
  · simp [hmissing]
  · simp [hnot]
  · simp [hnot]

theorem validated_of_overlap {ts : List Tenor} (hoverlap : Quotes.Overlap i.cash i.swap ts)
    (hne : ts ≠ []) : Validated i.toDraft (.error (.overlappingTenors ts)) := by
  refine ⟨fun g => ?_, fun us => ⟨fun h => ?_, ?_⟩, fun j => ⟨fun h => by simp at h, ?_⟩,
    fun e he => .inr ⟨ts, (Except.error.inj he).symm⟩⟩
  · simp [firstMissing?_toDraft]
  · obtain rfl := StructureError.overlappingTenors.inj (Except.error.inj h)
    exact ⟨i, rfl, hne, hoverlap⟩
  · rintro ⟨j, hj, -, hus⟩
    obtain rfl := toDraft_injective hj
    rw [hoverlap.unique hus]
  · rintro ⟨hj, hapart⟩
    obtain rfl := toDraft_injective hj
    exact absurd hapart (hoverlap.not_apart hne)

theorem validated_of_apart (hapart : Quotes.Apart i.cash i.swap) : Validated i.toDraft (.ok i) := by
  refine ⟨fun g => ?_, fun us => ⟨fun h => by simp at h, ?_⟩, fun j => ⟨fun h => ?_, ?_⟩,
    fun e he => by simp at he⟩
  · simp [firstMissing?_toDraft]
  · rintro ⟨j, hj, hne, hus⟩
    obtain rfl := toDraft_injective hj
    exact absurd hapart (hus.not_apart hne)
  · obtain rfl := Except.ok.inj h
    exact ⟨rfl, hapart⟩
  · rintro ⟨hj, -⟩
    rw [toDraft_injective hj]

theorem validated_build (d : CurveDraft) : Validated d d.build := by
  rcases complete_cases d with ⟨f, hmissing, hcomplete⟩ | ⟨i, rfl⟩
  · have hbuild : d.build = .error (.missingField f) := by rw [build, hcomplete]
    rw [hbuild]
    exact validated_of_missing hmissing
  · rcases build_toDraft i with ⟨hapart, hbuild⟩ | ⟨ts, hoverlap, hne, hbuild⟩
    · rw [hbuild]
      exact validated_of_apart hapart
    · rw [hbuild]
      exact validated_of_overlap hoverlap hne

theorem isOwn_of_build (h : d.build = .error e) : e.IsOwn := by
  rcases (validated_build d).error e h with ⟨f, rfl⟩ | ⟨ts, rfl⟩ <;> exact fun v => by simp

end CurveDraft

/-! ## Inputs -/

namespace CurveInput

variable {i : CurveInput}

/-- An input that was built from a draft, or read from a tree, the text of a document or a file. -/
inductive Obtained (i : CurveInput) : Prop where
  | built (d : CurveDraft) : d.build = .ok i → Obtained i
  | decoded (format : DocumentFormat) (t : Tree) : Decode.curveInput format t = .ok i → Obtained i
  | parsed (format : DocumentFormat) (text : String) :
    format.parse Decode.curveInput text = .ok i → Obtained i
  | loaded (files : Files) (path : String) : files.curveInput path = .ok i → Obtained i

theorem exists_draft_of_decoded {format : DocumentFormat} {t : Tree}
    (h : Decode.curveInput format t = .ok i) : ∃ d : CurveDraft, d.build = .ok i := by
  obtain ⟨d, -, hcheck⟩ := Outcome.bind_eq_ok_iff.1 h
  exact ⟨d, Decode.check_eq_ok_iff.1 hcheck⟩

theorem Obtained.exists_draft (h : i.Obtained) : ∃ d : CurveDraft, d.build = .ok i := by
  cases h with
  | built d hd => exact ⟨d, hd⟩
  | decoded format t ht => exact exists_draft_of_decoded ht
  | parsed format text htext =>
    obtain ⟨t, ht⟩ := DocumentFormat.exists_tree_of_parse htext
    exact exists_draft_of_decoded ht
  | loaded files path hload =>
    rw [Files.curveInput] at hload
    split at hload
    · simp at hload
    next d _ => exact ⟨d, Outcome.mapError_eq_ok_iff.1 hload⟩

/-- No input quotes a length for both instruments. -/
theorem Obtained.apart (h : i.Obtained) : Quotes.Apart i.cash i.swap := by
  obtain ⟨d, hd⟩ := h.exists_draft
  exact (((CurveDraft.validated_build d).ok i).1 hd).2

theorem Obtained.build_toDraft (h : i.Obtained) : i.toDraft.build = .ok i :=
  ((CurveDraft.validated_build i.toDraft).ok i).2 ⟨rfl, h.apart⟩

end CurveInput

/-- A draft has the last settings of its fields, and a document with these settings is the same draft.
The outcome of a draft is that of its first missing field or of the common tenors; documents have it as
an error of content, worded alike. So no input has a length for both instruments, and each input is the
outcome of its own draft. -/
theorem curve_validation :
    (∀ d : CurveDraft, CurveDraft.Validated d d.build) ∧
    (∀ (d : CurveDraft) (settings : List CurveSetting) field, (settings.foldl .set d).setting? field =
      (settings.filter fun s => s.field? = field).getLast?.elim (d.setting? field)
        CurveSetting.kept?) ∧
    (∀ format members settings,
      List.Forall₂ (CurveSetting.IsMember format) members settings →
      (settings.map CurveSetting.name).Nodup →
      Decode.curveDraft format (.object members .closed) = .ok (settings.foldl .set .empty)) ∧
    (∀ format t d, Decode.curveDraft format t = .ok d →
      Decode.curveInput format t = d.build.mapError (.data ∘ .structural)) ∧
    (∀ (format : DocumentFormat) text d, format.parse Decode.curveDraft text = .ok d →
      format.parse Decode.curveInput text = d.build.mapError (.data ∘ .structural)) ∧
    (∀ format (d : CurveDraft) e, d.build = .error e →
      (DataFault.structural e).message format = e.message) ∧
    (∀ i : CurveInput, i.Obtained → Quotes.Apart i.cash i.swap ∧ i.toDraft.build = .ok i) ∧
    ∀ a b : Quotes, a.commonTenors b = [] ↔ b.commonTenors a = [] := by
  have hcheck : ∀ d : CurveDraft,
      Decode.check .structural d.build = d.build.mapError (.data ∘ .structural) := by
    intro d
    cases d.build <;> rfl
  have hdecode : ∀ format t d, Decode.curveDraft format t = .ok d →
      Decode.curveInput format t = Decode.check .structural d.build := by
    intro format t d ht
    rw [Decode.curveInput, ht]
    rfl
  refine ⟨CurveDraft.validated_build, CurveDraft.setting?_foldl,
    fun format members settings => Decode.curveDraft_ofSettings,
    fun format t d ht => (hdecode format t d ht).trans (hcheck d), ?_,
    fun format d e he => DataFault.message_structural format (CurveDraft.isOwn_of_build he),
    fun i hi => ⟨hi.apart, hi.build_toDraft⟩, fun a b => Quotes.commonTenors_comm_nil⟩
  intro format text d htext
  exact (DocumentFormat.parse_of_check (fun t => hdecode format t d) htext).trans (hcheck d)

/-- An input with one quote for each instrument. -/
def pairInput (cash swap : Tenor) : CurveInput where
  currency := .usd
  curveDayCount := .actual365Fixed
  convention := .modifiedFollowing
  cashDayCount := .actual360
  swapDayCount := .thirty360US
  spotDate := ⟨2024, 2, 15, by decide, by decide, by decide⟩
  region := none
  fixedLegInterval := .months 6
  cash := ⟨[(cash, 0.01)], List.pairwise_singleton _ _⟩
  swap := ⟨[(swap, 0.02)], List.pairwise_singleton _ _⟩

theorem apart_pairInput {cash swap : Tenor} (h : cash.length ≠ swap.length) :
    Quotes.Apart (pairInput cash swap).cash (pairInput cash swap).swap := by
  simpa [Quotes.Apart, pairInput, Quotes.tenors] using h

/-- Twelve months and a year are a common tenor, named as the cash quote has it; two years are another
one. -/
theorem curve_validation_twelve_months :
    (pairInput (.months 12) (.years 1)).toDraft.build = .error (.overlappingTenors [.months 12]) ∧
    (pairInput (.years 1) (.months 12)).toDraft.build = .error (.overlappingTenors [.years 1]) ∧
    (pairInput (.months 12) (.years 2)).toDraft.build = .ok (pairInput (.months 12) (.years 2)) := by
  obtain ⟨hvalidated, -⟩ := curve_validation
  have hoverlap : ∀ t u : Tenor, t.length = u.length →
      Quotes.Overlap (pairInput t u).cash (pairInput t u).swap [t] := by
    intro t u heq
    refine ⟨List.pairwise_singleton _ _, fun t' => ?_⟩
    simp only [pairInput, Quotes.tenors, List.map_cons, List.map_nil, List.mem_singleton,
      exists_eq_left]
    constructor
    · rintro rfl
      exact ⟨rfl, heq.symm⟩
    · exact And.left
  refine ⟨?_, ?_, ?_⟩
  · exact ((hvalidated _).overlapping _).2
      ⟨_, rfl, List.cons_ne_nil _ _, hoverlap (.months 12) (.years 1) (by decide)⟩
  · exact ((hvalidated _).overlapping _).2
      ⟨_, rfl, List.cons_ne_nil _ _, hoverlap (.years 1) (.months 12) (by decide)⟩
  · exact ((hvalidated _).ok _).2 ⟨rfl, apart_pairInput (by decide)⟩

end TermStructure
