import TermStructure.File.Load
import TermStructure.Proofs.Outcome

/-!
# Outcomes of reading

A reading that is put together from others gives a value only if each of them does. The lemmas go from the
value back to the tree that a document's text was read as (`exists_tree_of_parse`) and to the entries that a
table was made of (`exists_entries_of_table`). A reading with a check gives what the reading without it gives,
up to the outcome of the check (`parse_of_check`).
-/

namespace TermStructure

variable {α β ε δ : Type} {V : Type}

namespace Decode

theorem check_eq_ok_iff {fault : ε → DataFault} {x : Except ε α} {a : α} :
    check fault x = .ok a ↔ x = .ok a := by
  cases x <;> simp [check]

theorem exists_entries_of_table {format : DocumentFormat} {r : Reader V} {tree : Tree} {t : Table V}
    (h : table r format tree = .ok t) :
    ∃ es, entries "TableDocument" r format tree = .ok es ∧ Table.ofEntries es = .ok t := by
  obtain ⟨es, hes, hcheck⟩ := Outcome.bind_eq_ok_iff.1 h
  exact ⟨es, hes, check_eq_ok_iff.1 hcheck⟩

end Decode

namespace DocumentFormat

theorem exists_tree_of_parse {format : DocumentFormat} {r : Reader α} {text : String}
    {a : α} (h : format.parse r text = .ok a) : ∃ tree, r format tree = .ok a := by
  cases format with
  | json =>
    simp only [DocumentFormat.parse, Json.Document.decode] at h
    split at h
    · simp at h
    next a' ha =>
      split at h
      · obtain rfl := Except.ok.inj h
        exact ⟨_, ha⟩
      · simp at h
  | toml =>
    simp only [DocumentFormat.parse] at h
    split at h
    next tree _ => exact ⟨tree, h⟩
    · simp at h

/-- What is read from the text of a tree is read from the tree. -/
theorem parse_of_read {r : Reader α} {text : String} {t : Tree} (h : Json.read text = ⟨t, true⟩) :
    DocumentFormat.json.parse r text = r .json t := by
  rw [parse, h, Json.Document.decode]
  cases r .json t <;> rfl

theorem parse_json_eq_ok_iff {r : Reader α} {text : String} {a : α} :
    DocumentFormat.json.parse r text = .ok a ↔
      ∃ t, Json.read text = ⟨t, true⟩ ∧ r .json t = .ok a := by
  rw [DocumentFormat.parse]
  obtain ⟨root, complete⟩ := Json.read text
  rw [Json.Document.decode]
  constructor
  · intro h
    cases hroot : r .json root with
    | error e => simp [hroot] at h
    | ok a' => cases complete <;> simp_all
  · rintro ⟨t, hread, ht⟩
    obtain ⟨rfl, rfl⟩ := Json.Document.mk.inj hread
    simp [ht]

/-- A text that is read without a check is read with one up to the outcome of the check. -/
theorem parse_of_check {format : DocumentFormat} {r : Reader α} {q : Reader β} {text : String} {a : α}
    {fault : ε → DataFault} {x : Except ε β}
    (hq : ∀ t, r format t = .ok a → q format t = Decode.check fault x)
    (h : format.parse r text = .ok a) : format.parse q text = Decode.check fault x := by
  cases format with
  | json =>
    obtain ⟨t, hread, ht⟩ := parse_json_eq_ok_iff.1 h
    rw [parse_of_read hread, hq t ht]
  | toml =>
    rw [parse] at h ⊢
    cases hread : Toml.read text with
    | none => simp [hread] at h
    | some t =>
      simp only [hread] at h ⊢
      exact hq t h

end DocumentFormat

namespace Files

theorem document_eq {files : Files} {path text : String} {format : DocumentFormat} (r : Reader V)
    (hformat : DocumentFormat.ofPath? path = some format)
    (hread : files.read path = .ok text) :
    files.document r path = (format.parse r text).mapError (.document path format) := by
  rw [document, hformat]
  simp only [Files.text, hread]
  cases format.parse r text <;> rfl

theorem exists_entries_of_table {files : Files} {r : Reader V} {path : String} {t : Table V}
    (h : files.table r path = .ok t) :
    ∃ es, files.document (Decode.entries "TableFile" r) path = .ok es ∧
      Table.ofEntries es = .ok t := by
  rw [Files.table] at h
  split at h
  · simp at h
  next es hes => exact ⟨es, hes, Outcome.mapError_eq_ok_iff.1 h⟩

end Files

end TermStructure
