import TermStructure.Document.Decode

/-!
# Records in documents

A record that is written as an object is read member by member, each as the field of its name
(`Decode.members_cons`).
-/

namespace TermStructure.Decode

variable {α : Type}

theorem read_field {σ : Type} (name : String) (optional : Bool) (r : Reader α) (store : α → σ → σ)
    (format : DocumentFormat) (t : Tree) (s : σ) :
    (field name optional r store).read format t s = (r format t).map fun a => store a s :=
  rfl

theorem read_ofMembers {σ : Type} (f : Fields σ) (init : σ) (format : DocumentFormat)
    (members : List (String × Tree)) :
    f.read init format (.ofMembers members) =
      f.members format .closed [] init (members.map fun m => (some m.1, m.2)) :=
  rfl

/-- Reads the first of the members that are left, if it is a field that was not read before. -/
theorem members_cons {σ : Type} {f : Fields σ} {field : Field σ} {name : String} {t : Tree}
    {s s' : σ} {seen : List String} {rest : List (Key × Tree)} {format : DocumentFormat}
    {ending : Ending} (hfind : f.fields.find? (·.name == name) = some field) (hnew : name ∉ seen)
    (hread : field.read format t s = .ok s') :
    f.members format ending seen s ((some name, t) :: rest) =
      f.members format ending (name :: seen) s' rest := by
  simp [Fields.members, Fields.member, hfind, hnew, hread]

end TermStructure.Decode
