import TermStructure.Proofs.Curve.Quotes
import TermStructure.Proofs.Date.Readers
import TermStructure.Proofs.Document.Restored
import TermStructure.Proofs.Identifier

/-!
# Curve inputs in documents

A curve input is written with a member for each of its fields, and without one for a region that it has
not. Each member is read as the setting of its field (`CurveInput.isRestored_settings`), so the document is
read as the draft of the input (`CurveInput.restored_draft`), and this draft is valid.
-/

namespace TermStructure

/-! ## Quotes -/

namespace Decode

/-- A member of a document is read as the rate of a tenor. -/
def IsRate (format : DocumentFormat) (p : Tenor × Float) (m : Key × Tree) : Prop :=
  m.1 = some p.1.text ∧ float format m.2 = .ok p.2

theorem IsRate.isQuote {format : DocumentFormat} {p : Tenor × Float} {m : Key × Tree}
    (h : IsRate format p m) : IsQuote p m :=
  ⟨⟨_, h.1, Tenor.parse_eq_ok_iff.1 (Tenor.parse_text p.1)⟩, float_eq_ok_iff.1 h.2⟩

/-- Members for ascending tenors are added one after the other at the end. -/
theorem rates_eq_ok {format : DocumentFormat} {ps : List (Tenor × Float)} {members : List (Key × Tree)}
    (h : List.Forall₂ (IsRate format) ps members) {q r : Quotes} (hr : r.points = q.points ++ ps) :
    rates format .closed q members = .ok r := by
  have hquotes : List.Forall₂ IsQuote ps members := h.imp fun _ _ => IsRate.isQuote
  have hperm : r.points.Perm (q.points ++ ps) := by rw [hr]
  rw [rates_eq hquotes, Quotes.withRates_of_perm hperm, check]

end Decode

namespace Restored

theorem quotes {q : Quotes} (h : ∀ p ∈ q.points, Restored Decode.float .ofFloat p.2) :
    Restored Decode.quotes Encode.quotes q := by
  obtain ⟨values, hvalues, hrates⟩ :=
    exists_members (fun p : Tenor × Float => p.1.text) fun p hp => restored_iff.1 (h p hp)
  refine restored_iff.2 ⟨_, .ofMembers hvalues, ?_⟩
  exact Decode.rates_eq_ok hrates rfl

/-! ## Other fields -/

theorem currency (c : Currency) : Restored Decode.currency Encode.currency c := by
  refine restored_iff.2 ⟨_, .ofText c.code, ?_⟩
  cases c <;> rfl

theorem convention (c : Convention) : Restored Decode.convention Encode.convention c := by
  refine restored_iff.2 ⟨_, .ofText c.documentName, ?_⟩
  cases c <;> rfl

theorem dayCount (c : DayCount) : Restored Decode.dayCount Encode.dayCount c := by
  refine restored_iff.2 ⟨_, .ofText c.name, ?_⟩
  cases c <;> rfl

theorem identifier {id : Identifier} {s : String} (h : Identifier.parse s = .ok id) :
    Restored Decode.identifier Encode.identifier id :=
  Identifier.restored_iff_isReadable.2 (Identifier.parse_text_iff.1 (Identifier.parse_text h))

/-- Where null stands for an absent value, a value that is not read from null is read as it is. -/
theorem nullable {α : Type} {r : Reader α} {write : α → Tree} {a : α} (h : Restored r write a)
    (hnull : r .json .null ≠ .ok a) :
    ∃ u, Json.ReadsBack (write a) u ∧ Decode.nullable r .json u = .ok (some a) := by
  obtain ⟨u, hread, hu⟩ := restored_iff.1 h
  refine ⟨u, hread, ?_⟩
  cases u with
  | null => exact absurd hu hnull
  | _ => exact congrArg (Except.map some) hu

end Restored

/-! ## Settings -/

namespace CurveSetting

/-- What is written for a setting. A cleared region is not written. -/
def written : CurveSetting → Tree
  | currency value => Encode.currency value
  | curveDayCount value => Encode.dayCount value
  | convention value => Encode.convention value
  | cashDayCount value => Encode.dayCount value
  | swapDayCount value => Encode.dayCount value
  | spotDate value => Encode.date value
  | region value => value.elim .null Encode.identifier
  | fixedLegInterval value => Encode.tenor value
  | cash value => Encode.quotes value
  | swap value => Encode.quotes value

/-- From what is written for a setting this setting is read. -/
def IsRestored (s : CurveSetting) : Prop :=
  ∃ u, Json.ReadsBack s.written u ∧ s.IsReadFrom .json u

end CurveSetting

namespace CurveInput

/-- The settings that make an input, in the order of documents. -/
def settings (i : CurveInput) : List CurveSetting :=
  [.currency i.currency, .curveDayCount i.curveDayCount, .convention i.convention,
    .cashDayCount i.cashDayCount, .swapDayCount i.swapDayCount, .spotDate i.spotDate] ++
  (i.region.map fun id => .region (some id)).toList ++
  [.fixedLegInterval i.fixedLegInterval, .cash i.cash, .swap i.swap]

theorem foldl_settings (i : CurveInput) : i.settings.foldl .set .empty = i.toDraft := by
  obtain ⟨_, _, _, _, _, _, _ | region, _, _, _⟩ := i <;> rfl

theorem names_settings (i : CurveInput) : i.settings.map CurveSetting.name =
    ["currency", "curve_day_count", "curve_business_day_convention", "cash_day_count",
      "swap_day_count", "spot_date"] ++ (i.region.map fun _ => "region").toList ++
    ["swap_fixed_leg_interval", "cash", "swap"] := by
  obtain ⟨_, _, _, _, _, _, _ | region, _, _, _⟩ := i <;> rfl

theorem nodup_names_settings (i : CurveInput) : (i.settings.map CurveSetting.name).Nodup := by
  rw [names_settings]
  cases i.region <;> simp

theorem curveInput_eq_settings (i : CurveInput) :
    Encode.curveInput i = .ofMembers (i.settings.map fun s => (s.name, s.written)) := by
  obtain ⟨_, _, _, _, _, _, _ | region, _, _, _⟩ := i <;> rfl

variable {i : CurveInput}

theorem isRestored_settings (hregion : ∀ id ∈ i.region, ∃ s, Identifier.parse s = .ok id)
    (hrates : ∀ p ∈ i.cash.points ++ i.swap.points, Restored Decode.float .ofFloat p.2) :
    ∀ s ∈ i.settings, s.IsRestored := by
  have hcash : Restored Decode.quotes Encode.quotes i.cash :=
    .quotes fun p hp => hrates p (List.mem_append_left _ hp)
  have hswap : Restored Decode.quotes Encode.quotes i.swap :=
    .quotes fun p hp => hrates p (List.mem_append_right _ hp)
  have hidentifier : ∀ s ∈ (i.region.map fun id => CurveSetting.region (some id)).toList,
      s.IsRestored := by
    intro s hs
    obtain ⟨id, hid, rfl⟩ := Option.map_eq_some_iff.1 (Option.mem_toList.1 hs)
    obtain ⟨text, htext⟩ := hregion id hid
    exact (Restored.identifier htext).nullable nofun
  simp only [settings, List.forall_mem_append, List.forall_mem_cons, List.not_mem_nil, false_implies,
    implies_true, and_true]
  exact ⟨⟨⟨(Restored.currency _).nullable nofun, (Restored.dayCount _).nullable nofun,
      (Restored.convention _).nullable nofun, (Restored.dayCount _).nullable nofun,
      (Restored.dayCount _).nullable nofun, (Date.restored _).nullable nofun⟩, hidentifier⟩,
    (Restored.tenor _).nullable nofun, hcash.nullable nofun, hswap.nullable nofun⟩

/-- The document of an input is read as the draft with all its fields. -/
theorem restored_draft (h : ∀ s ∈ i.settings, s.IsRestored) :
    DocumentFormat.json.parse Decode.curveDraft (Json.compact (Encode.curveInput i)) =
      .ok i.toDraft := by
  obtain ⟨values, hvalues, hmembers⟩ := Restored.exists_members CurveSetting.name h
  have hread : Json.ReadsBack (Encode.curveInput i) (.ofMembers values) := by
    rw [curveInput_eq_settings]
    exact .ofMembers hvalues
  refine DocumentFormat.parse_json_eq_ok_iff.2 ⟨_, Json.readsBack_iff.1 hread, ?_⟩
  rw [← foldl_settings]
  exact Decode.curveDraft_ofSettings hmembers.flip i.nodup_names_settings

/-- What is written for an input is this input, as a document and in a file. A region that is absent is
not written. -/
structure IsRestored (i : CurveInput) : Prop where
  parse : Restored Decode.curveInput Encode.curveInput i
  load : ∀ (files : Files) (path : String), DocumentFormat.ofPath? path = some .json →
    files.read path = .ok (Json.compact (Encode.curveInput i)) → files.curveInput path = .ok i
  region : i.region = none →
    ∃ members, Encode.curveInput i = .ofMembers members ∧ "region" ∉ members.map Prod.fst

/-- An input is restored from the document that is written for it, if its region can be read and each of
its rates is read from its own digits. -/
theorem document_restored (hobtained : i.Obtained)
    (hregion : ∀ id ∈ i.region, ∃ s, Identifier.parse s = .ok id)
    (hrates : ∀ p ∈ i.cash.points ++ i.swap.points, Restored Decode.float .ofFloat p.2) :
    i.IsRestored := by
  have hdraft := restored_draft (isRestored_settings hregion hrates)
  have hbuild := hobtained.build_toDraft
  refine ⟨?_, fun files path hformat hread => ?_, fun hnone => ?_⟩
  · have hdecode : ∀ t, Decode.curveDraft .json t = .ok i.toDraft →
        Decode.curveInput .json t = Decode.check .structural i.toDraft.build := by
      intro t ht
      rw [Decode.curveInput, ht]
      rfl
    rw [Restored, DocumentFormat.parse_of_check hdecode hdraft, hbuild]
    rfl
  · rw [Files.curveInput, Files.document_eq _ hformat hread, hdraft]
    change i.toDraft.build.mapError _ = _
    rw [hbuild]
    rfl
  · refine ⟨_, i.curveInput_eq_settings, ?_⟩
    rw [List.map_map]
    change "region" ∉ i.settings.map CurveSetting.name
    rw [names_settings, hnone]
    decide

/-- An input from the first day on, in a region whose value holds a tilde and blanks. -/
def distant : CurveInput where
  currency := .jpy
  curveDayCount := .actualActual
  convention := .modifiedPreceding
  cashDayCount := .thirty360European
  swapDayCount := .thirty360US
  spotDate := .first
  region := some ⟨"DESK ", "north~ east"⟩
  fixedLegInterval := ⟨4294967295, .weeks, by decide⟩
  cash := ⟨[(.months 3, 0.0125), (.days 92, -0.5)], by simp; decide⟩
  swap := ⟨[(.months 60, 1e-300)], List.pairwise_singleton _ _⟩

theorem document_restored_distant :
    distant.Obtained ∧ (∀ id ∈ distant.region, ∃ s, Identifier.parse s = .ok id) ∧
    (∀ p ∈ distant.cash.points ++ distant.swap.points, Restored Decode.float .ofFloat p.2) ∧
    distant.IsRestored := by
  have hobtained : distant.Obtained := .built distant.toDraft rfl
  have hregion : ∀ id ∈ distant.region, ∃ s, Identifier.parse s = .ok id := by
    rintro id ⟨⟩
    exact ⟨" DESK ~north~ east\n", by decide⟩
  have hrates : ∀ p ∈ distant.cash.points ++ distant.swap.points,
      Restored Decode.float .ofFloat p.2 := by
    have hread : ∀ x ∈ [0.0125, -0.5, 1e-300], Restored Decode.float .ofFloat x := by
      unfold Restored
      decide +kernel
    simpa [distant] using hread
  exact ⟨hobtained, hregion, hrates, document_restored hobtained hregion hrates⟩

end CurveInput

end TermStructure
