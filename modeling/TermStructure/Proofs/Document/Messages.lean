import Mathlib.Data.List.TakeDrop
import TermStructure.Document.Decode

/-!
# Messages of data errors

An error of a structure that is found in a document is worded as it is elsewhere, in both formats
(`DataFault.message_structural`). JSON messages lose what reads like a place at their end; a place ends
with a digit, and no such error ends with one.
-/

namespace TermStructure

/-- No digit stands at the end of a text. -/
def EndsPlain (s : String) : Prop :=
  ∀ c ∈ s.toList.getLast?, c.isDigit = false

namespace EndsPlain

theorem append {s t : String} (hs : EndsPlain s) (ht : EndsPlain t) : EndsPlain (s ++ t) := by
  intro c hc
  rw [String.toList_append, List.getLast?_append] at hc
  cases hlast : t.toList.getLast? with
  | none =>
    rw [hlast, Option.none_or] at hc
    exact hs c hc
  | some d =>
    rw [hlast, Option.some_or] at hc
    exact ht c (hlast.trans hc)

theorem ofList {cs : List Char} (h : cs.getLast?.all (fun c => !c.isDigit) = true) :
    EndsPlain (String.ofList cs) := by
  intro c hc
  rw [String.toList_ofList, Option.mem_def] at hc
  rw [hc] at h
  simpa using h

theorem tenor (t : Tenor) : EndsPlain t.text := by
  intro c hc
  rw [Tenor.text, String.toList_ofList, Tenor.chars, List.getLast?_concat] at hc
  obtain rfl := Option.some.inj hc
  cases t.unit <;> decide

theorem intercalate {separator : String} (hseparator : EndsPlain separator) {texts : List String}
    (h : ∀ s ∈ texts, EndsPlain s) : EndsPlain (separator.intercalate texts) := by
  induction texts with
  | nil => simp [EndsPlain]
  | cons s texts ih =>
    rw [List.forall_mem_cons] at h
    cases texts with
    | nil =>
      rw [String.intercalate_singleton]
      exact h.1
    | cons t texts =>
      rw [String.intercalate_cons_cons]
      exact (h.1.append hseparator).append (ih h.2)

end EndsPlain

/-- What has no digit at its end has no place there either. -/
theorem Json.withoutPlace_eq_self {s : String} (h : EndsPlain s) :
    Json.withoutPlace s.toList = s.toList := by
  have hdigits : (Json.splitDigits s.toList).2 = [] := by
    rw [EndsPlain, ← List.head?_reverse] at h
    rw [Json.splitDigits]
    cases hreverse : s.toList.reverse with
    | nil => rfl
    | cons c cs =>
      rw [hreverse] at h
      rw [List.span_eq_takeWhile_dropWhile, List.takeWhile_cons_of_neg (by simp [h c rfl])]
      rfl
  have hnone : Json.beforeNumber? " column ".toList s.toList = none := by
    rw [Json.beforeNumber?]
    simp only [hdigits]
    rfl
  rw [Json.withoutPlace, hnone]
  rfl

namespace StructureError

/-- An error that a structure itself has, not one of the values in it. -/
def IsOwn (e : StructureError) : Prop :=
  ∀ v, e ≠ .value v

theorem endsPlain_message {e : StructureError} (h : e.IsOwn) : EndsPlain e.message := by
  cases e with
  | value v => exact absurd rfl (h v)
  | emptyTable => exact EndsPlain.ofList rfl
  | missingOrigin found => exact (EndsPlain.ofList rfl).append (.tenor found)
  | gapOrOverlap previousStop start =>
    refine (((EndsPlain.ofList rfl).append (.tenor start)).append (EndsPlain.ofList rfl)).append ?_
    cases previousStop with
    | none => exact EndsPlain.ofList rfl
    | some t => exact .tenor t
  | unterminatedTable found => exact (EndsPlain.ofList rfl).append (.tenor found)
  | duplicateStart start => exact (EndsPlain.ofList rfl).append (.tenor start)
  | invalidInterval start stop =>
    exact (((EndsPlain.ofList rfl).append (.tenor stop)).append (EndsPlain.ofList rfl)).append
      (.tenor start)
  | overlappingTenors tenors =>
    refine (EndsPlain.ofList rfl).append (EndsPlain.intercalate (EndsPlain.ofList rfl) ?_)
    intro s hs
    obtain ⟨t, -, rfl⟩ := List.mem_map.1 hs
    exact .tenor t
  | duplicateTenor tenor =>
    exact ((EndsPlain.ofList rfl).append (.tenor tenor)).append (EndsPlain.ofList rfl)
  | missingField field =>
    refine (EndsPlain.ofList rfl).append ?_
    cases field <;> exact EndsPlain.ofList rfl

end StructureError

/-- An error of a structure is worded in documents as it is elsewhere. -/
theorem DataFault.message_structural (format : DocumentFormat) {e : StructureError} (h : e.IsOwn) :
    (DataFault.structural e).message format = e.message := by
  cases format with
  | toml => rfl
  | json =>
    have hplain := Json.withoutPlace_eq_self (StructureError.endsPlain_message h)
    change String.ofList (Json.withoutPlace e.message.toList) = e.message
    rw [hplain, String.ofList_toList]

end TermStructure
