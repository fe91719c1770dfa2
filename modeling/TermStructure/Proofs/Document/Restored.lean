import TermStructure.Document.Encode
import TermStructure.Document.Parse
import TermStructure.Document.Values
import TermStructure.Proofs.Document.Outcome
import TermStructure.Proofs.Json.Numbers

/-!
# Values that are restored

`Restored r write a`: from the text that is written for a value, this value is read. This is shown at
the tree that the text is read as (`restored_iff`), so what holds of the parts of a document holds of
the whole. Texts, tenors and integers of 64 bits are always restored. A double is unless its digits are
read as another one; one that is no number never is.
-/

namespace TermStructure

variable {α : Type} {r : Reader α} {write : α → Tree} {a : α}

/-- From what is written for a value this value is read. -/
def Restored (r : Reader α) (write : α → Tree) (a : α) : Prop :=
  DocumentFormat.json.parse r (Json.compact (write a)) = .ok a

theorem restored_iff :
    Restored r write a ↔ ∃ u, Json.ReadsBack (write a) u ∧ r .json u = .ok a := by
  simp only [Restored, DocumentFormat.parse_json_eq_ok_iff, Json.readsBack_iff]

/-- What is written for a text is read as this text. -/
theorem DocumentFormat.parse_compact_ofText (r : Reader α) (s : String) :
    DocumentFormat.json.parse r (Json.compact (.ofText s)) = r .json (.ofText s) :=
  parse_of_read (Json.readsBack_iff.1 (.ofText s))

theorem Encode.decode_tenor (format : DocumentFormat) (t : Tenor) :
    Decode.tenor format (tenor t) = .ok t := by
  change Decode.check .value (Tenor.parse t.text) = .ok t
  rw [Tenor.parse_text]
  rfl

theorem Decode.sequence_ofItems {format : DocumentFormat} {ts : List Tree} {as : List α}
    (h : items r format ts = .ok as) : sequence r format (.ofItems ts) = .ok as := by
  simp [sequence, Tree.ofItems, Tree.items?, h]

namespace Restored

/-! ## Leaves -/

theorem tenor (t : Tenor) : Restored Decode.tenor Encode.tenor t :=
  restored_iff.2 ⟨_, .ofText t.text, Encode.decode_tenor .json t⟩

theorem string (s : String) : Restored Decode.string .ofText s :=
  restored_iff.2 ⟨_, .ofText s, rfl⟩

theorem int64 {n : Int} (hlow : -2 ^ 63 ≤ n) (hhigh : n < 2 ^ 63) :
    Restored Decode.int64 Encode.int n := by
  refine restored_iff.2 ⟨_, .ofInt hlow (by omega), ?_⟩
  exact if_pos ⟨hlow, by omega⟩

/-- A double that is no number is not read again: the null that is written for it has the wrong type. -/
theorem parse_notFinite {x : Float} (h : x.isFinite = false) :
    DocumentFormat.json.parse Decode.float (Json.compact (.ofFloat x)) =
      .error (.data (.wrongType .null "f64")) := by
  have hread : Json.read (Json.compact (.ofFloat x)) = ⟨.null, true⟩ :=
    Json.readsBack_iff.1 (Json.readsBack_notFinite h)
  rw [DocumentFormat.parse, hread]
  rfl

/-! ## Sequences -/

theorem items {as : List α} (h : ∀ a ∈ as, Restored r write a) :
    ∃ us, List.Forall₂ Json.ReadsBack (as.map write) us ∧ Decode.items r .json us = .ok as := by
  induction as with
  | nil => exact ⟨[], .nil, rfl⟩
  | cons a as ih =>
    rw [List.forall_mem_cons] at h
    obtain ⟨u, hread, hu⟩ := restored_iff.1 h.1
    obtain ⟨us, hreads, hus⟩ := ih h.2
    exact ⟨u :: us, .cons hread hreads, by rw [Decode.items, hu, hus]⟩

theorem sequence {as : List α} (h : ∀ a ∈ as, Restored r write a) :
    Restored (Decode.sequence r) (fun as => .ofItems (as.map write)) as := by
  obtain ⟨us, hreads, hus⟩ := items h
  exact restored_iff.2 ⟨_, .ofItems hreads, Decode.sequence_ofItems hus⟩

/-! ## Members -/

/-- Members under names are read back, each as something that the value is read from. -/
theorem exists_members {β : Type} {write : β → Tree} {P : β → Tree → Prop} {bs : List β}
    (name : β → String) (h : ∀ b ∈ bs, ∃ u, Json.ReadsBack (write b) u ∧ P b u) :
    ∃ values, List.Forall₂ Json.MemberReadsBack (bs.map fun b => (name b, write b)) values ∧
      List.Forall₂ (fun b m => m.1 = some (name b) ∧ P b m.2) bs (Json.keyed values) := by
  induction bs with
  | nil => exact ⟨[], .nil, .nil⟩
  | cons b bs ih =>
    rw [List.forall_mem_cons] at h
    obtain ⟨u, hread, hu⟩ := h.1
    obtain ⟨values, hvalues, hmembers⟩ := ih h.2
    exact ⟨(name b, u) :: values, .cons ⟨rfl, hread⟩ hvalues, .cons ⟨rfl, hu⟩ hmembers⟩

end Restored

end TermStructure
