import Mathlib.Data.List.Forall2
import TermStructure.Document.Values
import TermStructure.Proofs.Document.Records

/-!
# Drafts from settings

A draft has in each field the last of the settings that were made there (`CurveDraft.setting?_foldl`). A
document with a member for each setting is read as the draft of these settings
(`Decode.curveDraft_ofSettings`).
-/

namespace TermStructure

namespace CurveSetting

/-- The mandatory field that is set; none if it is the region. -/
def field? : CurveSetting → Option CurveField
  | currency _ => some .currency
  | curveDayCount _ => some .curveDayCount
  | convention _ => some .convention
  | cashDayCount _ => some .cashDayCount
  | swapDayCount _ => some .swapDayCount
  | spotDate _ => some .spotDate
  | region _ => none
  | fixedLegInterval _ => some .fixedLegInterval
  | cash _ => some .cash
  | swap _ => some .swap

/-- What a setting leaves in its field: itself, or nothing if it clears the region. -/
def kept? : CurveSetting → Option CurveSetting
  | region none => none
  | s => some s

/-- The name in documents of the field that is set. -/
def name (s : CurveSetting) : String :=
  s.field?.elim "region" CurveField.name

end CurveSetting

namespace CurveDraft

/-- The setting that a draft has for a mandatory field, or for the region. -/
def setting? (d : CurveDraft) : Option CurveField → Option CurveSetting
  | none => d.region.map fun r => .region (some r)
  | some .currency => d.currency.map .currency
  | some .curveDayCount => d.curveDayCount.map .curveDayCount
  | some .convention => d.convention.map .convention
  | some .cashDayCount => d.cashDayCount.map .cashDayCount
  | some .swapDayCount => d.swapDayCount.map .swapDayCount
  | some .spotDate => d.spotDate.map .spotDate
  | some .fixedLegInterval => d.fixedLegInterval.map .fixedLegInterval
  | some .cash => d.cash.map .cash
  | some .swap => d.swap.map .swap

/-- A setting replaces what its field had and leaves the other fields as they are. -/
theorem setting?_set (d : CurveDraft) (s : CurveSetting) (field : Option CurveField) :
    (d.set s).setting? field = if s.field? = field then s.kept? else d.setting? field := by
  cases s with
  | region value => cases value <;> rcases field with _ | _ | _ <;> rfl
  | _ => rcases field with _ | _ | _ <;> rfl

/-- The last setting of a field counts. -/
theorem setting?_foldl (d : CurveDraft) (settings : List CurveSetting) (field : Option CurveField) :
    (settings.foldl set d).setting? field =
      (settings.filter fun s => s.field? = field).getLast?.elim (d.setting? field)
        CurveSetting.kept? := by
  induction settings generalizing d with
  | nil => rfl
  | cons s settings ih =>
    rw [List.foldl_cons, ih, setting?_set]
    by_cases hs : s.field? = field
    · rw [if_pos hs, List.filter_cons_of_pos (by simpa using hs), List.getLast?_cons]
      cases (settings.filter fun s => s.field? = field).getLast? <;> rfl
    · rw [if_neg hs, List.filter_cons_of_neg (by simpa using hs)]

end CurveDraft

/-! ## Settings in documents -/

namespace CurveSetting

/-- A tree in a document is read as the value of a setting. Null clears the region. -/
def IsReadFrom (format : DocumentFormat) (t : Tree) : CurveSetting → Prop
  | currency value => Decode.nullable Decode.currency format t = .ok (some value)
  | curveDayCount value => Decode.nullable Decode.dayCount format t = .ok (some value)
  | convention value => Decode.nullable Decode.convention format t = .ok (some value)
  | cashDayCount value => Decode.nullable Decode.dayCount format t = .ok (some value)
  | swapDayCount value => Decode.nullable Decode.dayCount format t = .ok (some value)
  | spotDate value => Decode.nullable Decode.date format t = .ok (some value)
  | region value => Decode.nullable Decode.identifier format t = .ok value
  | fixedLegInterval value => Decode.nullable Decode.tenor format t = .ok (some value)
  | cash value => Decode.nullable Decode.quotes format t = .ok (some value)
  | swap value => Decode.nullable Decode.quotes format t = .ok (some value)

/-- A member of a document is a setting. -/
def IsMember (format : DocumentFormat) (m : Key × Tree) (s : CurveSetting) : Prop :=
  m.1 = some s.name ∧ s.IsReadFrom format m.2

end CurveSetting

namespace Decode

variable {format : DocumentFormat} {s : CurveSetting} {settings : List CurveSetting}
  {members : List (Key × Tree)}

theorem exists_curveField (s : CurveSetting) :
    ∃ field, curveFields.fields.find? (·.name == s.name) = some field ∧
      ∀ format t d, s.IsReadFrom format t → field.read format t d = .ok (d.set s) := by
  cases s <;> refine ⟨_, rfl, fun format t d h => ?_⟩ <;>
    exact (read_field _ _ _ _ format t d).trans (congrArg (Except.map _) h)

theorem members_ofSettings (h : List.Forall₂ (CurveSetting.IsMember format) members settings)
    (hnodup : (settings.map CurveSetting.name).Nodup) {seen : List String}
    (hseen : ∀ s ∈ settings, s.name ∉ seen) (d : CurveDraft) :
    curveFields.members format .closed seen d members = .ok (settings.foldl .set d) := by
  induction h generalizing seen d with
  | nil => rfl
  | @cons m s members settings hmember _ ih =>
    obtain ⟨key, t⟩ := m
    obtain ⟨rfl, hread⟩ := hmember
    obtain ⟨field, hfind, hfield⟩ := exists_curveField s
    rw [List.forall_mem_cons] at hseen
    rw [List.map_cons, List.nodup_cons] at hnodup
    rw [members_cons hfind hseen.1 (hfield format t d hread), List.foldl_cons]
    refine ih hnodup.2 (fun s' hs' hmem => ?_) (d.set s)
    rcases List.mem_cons.1 hmem with heq | hmem
    · exact hnodup.1 (heq ▸ List.mem_map_of_mem hs')
    · exact hseen.2 s' hs' hmem

/-- A document with a member for each of some settings of distinct fields is the draft of these settings. -/
theorem curveDraft_ofSettings (h : List.Forall₂ (CurveSetting.IsMember format) members settings)
    (hnodup : (settings.map CurveSetting.name).Nodup) :
    curveDraft format (.object members .closed) = .ok (settings.foldl .set .empty) :=
  members_ofSettings h hnodup (fun _ _ => List.not_mem_nil) CurveDraft.empty

end Decode

end TermStructure
