import Mathlib.Data.List.Forall2
import TermStructure.Document.Values
import TermStructure.Proofs.Document.Outcome

/-!
# The order of members

`Tree.ReorderedAt path t u`: the trees are the same but for the order of the members of one object, which stands
at a path. A reader of documents may ignore the order there (`Decode.IgnoresOrderAt`). One that wants a leaf does
so everywhere, since it refuses both trees. One that reads a record ignores the order of its members, because its
fields are stored without regard to each other (`Decode.members_perm`); below the record it hangs on the readers of
its fields (`Decode.ignoresOrderAt_read`).
-/

namespace TermStructure

variable {α β σ : Type}

namespace Tree

/-- A step into a tree: to an item of an array by its position, or to a member of an object by its key. -/
inductive PathStep where
  | item (i : Nat)
  | member (key : Key)

/-- The members of the object at a path stand in another order. -/
inductive ReorderedAt : List PathStep → Tree → Tree → Prop where
  | here {members members' : List (Key × Tree)} {ending : Ending} :
    members.Perm members' → ReorderedAt [] (.object members ending) (.object members' ending)
  | item {path : List PathStep} {t u : Tree} {before after : List Tree} {ending : Ending} :
    ReorderedAt path t u → ReorderedAt (.item before.length :: path)
      (.array (before ++ t :: after) ending) (.array (before ++ u :: after) ending)
  | member {path : List PathStep} {t u : Tree} {key : Key} {before after : List (Key × Tree)}
    {ending : Ending} :
    ReorderedAt path t u → ReorderedAt (.member key :: path)
      (.object (before ++ (key, t) :: after) ending) (.object (before ++ (key, u) :: after) ending)

variable {path : List PathStep} {t u : Tree}

theorem ReorderedAt.symm (h : ReorderedAt path t u) : ReorderedAt path u t := by
  induction h with
  | here hperm => exact .here hperm.symm
  | item _ ih => exact .item ih
  | member _ ih => exact .member ih

theorem itemsWellFormed_eq (ts : List Tree) : itemsWellFormed ts = ts.all wellFormed := by
  induction ts with
  | nil => rfl
  | cons t ts ih => rw [itemsWellFormed, ih, List.all_cons]

theorem membersWellFormed_eq (members : List (Key × Tree)) :
    membersWellFormed members = members.all fun m => m.2.wellFormed := by
  induction members with
  | nil => rfl
  | cons m members ih => rw [membersWellFormed, ih, List.all_cons]

theorem ReorderedAt.wellFormed_eq (h : ReorderedAt path t u) : t.wellFormed = u.wellFormed := by
  induction h with
  | here hperm => rw [wellFormed, wellFormed, membersWellFormed_eq, membersWellFormed_eq, hperm.all_eq]
  | item _ ih =>
    simp only [wellFormed, itemsWellFormed_eq, List.all_append, List.all_cons, ih]
  | member _ ih =>
    simp only [wellFormed, membersWellFormed_eq, List.all_append, List.all_cons, ih]

end Tree

namespace Decode

open TermStructure.Tree (ReorderedAt PathStep)

variable {path : List PathStep} {r : Reader α}

/-- What is read from a JSON document does not hang on the order of the members of the object at a path. -/
def IgnoresOrderAt (r : Reader α) (path : List PathStep) : Prop :=
  ∀ ⦃t u : Tree⦄, ReorderedAt path t u → ∀ a, r .json t = .ok a → r .json u = .ok a

namespace IgnoresOrderAt

theorem ok_iff (h : IgnoresOrderAt r path) {t u : Tree} (htu : ReorderedAt path t u) (a : α) :
    r .json t = .ok a ↔ r .json u = .ok a :=
  ⟨h htu a, h htu.symm a⟩

theorem bind (h : IgnoresOrderAt r path) (k : α → Decoded β) :
    IgnoresOrderAt (fun format t => (r format t).bind k) path := by
  intro t u htu b hb
  obtain ⟨a, ha, hk⟩ := Outcome.bind_eq_ok_iff.1 hb
  exact Outcome.bind_eq_ok_iff.2 ⟨a, h htu a ha, hk⟩

theorem map (h : IgnoresOrderAt r path) (f : α → β) :
    IgnoresOrderAt (fun format t => (r format t).map f) path := by
  intro t u htu b hb
  obtain ⟨a, ha, hf⟩ := Outcome.map_eq_ok_iff.1 hb
  exact Outcome.map_eq_ok_iff.2 ⟨a, h htu a ha, hf⟩

/-- A reader that refuses arrays and objects meets neither of two reordered trees. -/
theorem of_leaf (harray : ∀ ts ending a, r .json (.array ts ending) ≠ .ok a)
    (hobject : ∀ members ending a, r .json (.object members ending) ≠ .ok a) (path : List PathStep) :
    IgnoresOrderAt r path := by
  intro t u htu a ha
  cases htu with
  | here => exact absurd ha (hobject _ _ a)
  | item => exact absurd ha (harray _ _ a)
  | member => exact absurd ha (hobject _ _ a)

theorem nullable (h : IgnoresOrderAt r path) : IgnoresOrderAt (nullable r) path := by
  intro t u htu a ha
  have hmap := h.map some htu a
  cases htu <;> exact hmap ha

end IgnoresOrderAt

/-! ## Sequences -/

theorem traverses_items (r : Reader α) (format : DocumentFormat) :
    Outcome.Traverses (r format) (items r format) where
  nil := rfl
  cons t ts := by
    rw [items]
    cases r format t with
    | error e => rfl
    | ok a => cases items r format ts <;> rfl

theorem sequence_array_eq_ok_iff {ts : List Tree} {ending : Ending} {as : List α} :
    sequence r .json (.array ts ending) = .ok as ↔
      List.Forall₂ (fun t a => r .json t = .ok a) ts as ∧ ending = .closed := by
  have hsequence : sequence r .json (.array ts ending) = (items r .json ts).bind fun as =>
      if ending = .closed then .ok as else .error .malformed := by
    simp only [sequence, Tree.items?]
    cases items r .json ts <;> rfl
  rw [hsequence, Outcome.bind_eq_ok_iff]
  constructor
  · rintro ⟨as', has, hif⟩
    obtain ⟨hclosed, rfl⟩ := Outcome.ite_eq_ok_iff.1 hif
    exact ⟨(traverses_items r .json).eq_ok_iff.1 has, hclosed⟩
  · rintro ⟨has, hclosed⟩
    exact ⟨as, (traverses_items r .json).eq_ok_iff.2 has, if_pos hclosed⟩

theorem forall₂_replace {R : β → α → Prop} {b c : β} (h : ∀ a, R b a → R c a) {before after : List β}
    {as : List α} (hread : List.Forall₂ R (before ++ b :: after) as) :
    List.Forall₂ R (before ++ c :: after) as := by
  induction before generalizing as with
  | nil =>
    cases hread with
    | cons hb hafter => exact .cons (h _ hb) hafter
  | cons d before ih =>
    cases hread with
    | cons hd hrest => exact .cons hd (ih hrest)

theorem ignoresOrderAt_sequence (h : ∀ i rest, path = .item i :: rest → IgnoresOrderAt r rest) :
    IgnoresOrderAt (sequence r) path := by
  intro t u htu as has
  cases htu with
  | here => exact nomatch has
  | member => exact nomatch has
  | item htu =>
    rw [sequence_array_eq_ok_iff] at has ⊢
    exact ⟨forall₂_replace (h _ _ rfl htu) has.1, has.2⟩

/-! ## Records -/

/-- Whichever of two fields is read first, the same is read. -/
def Field.Commutes (g h : Field σ) : Prop :=
  ∀ t u s s', (g.read .json t s).bind (h.read .json u) = .ok s' →
    (h.read .json u s).bind (g.read .json t) = .ok s'

theorem commutes_field {name name' : String} {optional optional' : Bool} {q : Reader β}
    {store : α → σ → σ} {store' : β → σ → σ} (h : ∀ a b s, store' b (store a s) = store a (store' b s)) :
    (field name optional r store).Commutes (field name' optional' q store') := by
  intro t u s s' hread
  obtain ⟨s₁, h₁, h₂⟩ := Outcome.bind_eq_ok_iff.1 hread
  obtain ⟨a, ha, rfl⟩ := Outcome.map_eq_ok_iff.1 h₁
  obtain ⟨b, hb, rfl⟩ := Outcome.map_eq_ok_iff.1 h₂
  refine Outcome.bind_eq_ok_iff.2 ⟨store' b s, Outcome.map_eq_ok_iff.2 ⟨b, hb, rfl⟩, ?_⟩
  exact Outcome.map_eq_ok_iff.2 ⟨a, ha, (h a b s).symm⟩

/-- The fields of a record are stored without regard to each other. -/
def Fields.Independent (f : Fields σ) : Prop :=
  ∀ g ∈ f.fields, ∀ h ∈ f.fields, g.name ≠ h.name → g.Commutes h

/-- A step of a path leads to the value of a field: by its name in an object, by its place in an array. -/
inductive Fields.FieldAt (f : Fields σ) : PathStep → Field σ → Prop where
  | member {g : Field σ} : g ∈ f.fields → f.FieldAt (.member (some g.name)) g
  | item {i : Nat} {g : Field σ} : f.fields[i]? = some g → f.FieldAt (.item i) g

theorem Fields.FieldAt.mem {f : Fields σ} {step : PathStep} {g : Field σ}
    (h : f.FieldAt step g) : g ∈ f.fields := by
  cases h with
  | member hmem => exact hmem
  | item hget => exact List.mem_of_getElem? hget

section Members

variable {f : Fields σ} {seen seen' : List String} {s s' : σ} {name : String} {key : Key} {t u : Tree}
  {members members' before after : List (Key × Tree)} {ending : Ending}

theorem members_cons_eq_ok_iff {rest : List (Key × Tree)} :
    f.members .json ending seen s ((key, t) :: rest) = .ok s' ↔
      ∃ name s₁, key = some name ∧ f.member .json seen s name t = .ok s₁ ∧
        f.members .json ending (name :: seen) s₁ rest = .ok s' := by
  cases key with
  | none => simp [Fields.members]
  | some name =>
    have hcons : f.members .json ending seen s ((some name, t) :: rest) =
        (f.member .json seen s name t).bind fun s₁ =>
          f.members .json ending (name :: seen) s₁ rest := by
      rw [Fields.members]
      cases f.member .json seen s name t <;> rfl
    rw [hcons, Outcome.bind_eq_ok_iff]
    simp

/-- A member is read as the field of its name, which has not been read before, or is unknown and well formed. -/
theorem member_eq_ok_iff : f.member .json seen s name t = .ok s' ↔
    (∃ g, f.fields.find? (·.name == name) = some g ∧ name ∉ seen ∧ g.read .json t s = .ok s') ∨
      f.fields.find? (·.name == name) = none ∧ f.strict = false ∧ t.wellFormed = true ∧ s = s' := by
  rw [Fields.member]
  cases f.fields.find? (·.name == name) with
  | some g =>
    by_cases hseen : name ∈ seen <;> simp [hseen]
  | none =>
    cases f.strict <;> cases t.wellFormed <;> simp

theorem mem_and_name_of_find? {g : Field σ} (h : f.fields.find? (·.name == name) = some g) :
    g ∈ f.fields ∧ g.name = name :=
  ⟨List.mem_of_find?_eq_some h, by simpa using List.find?_some h⟩

/-- Two members next to each other may change places. If both are fields, these are not the same. -/
theorem member_swap (hf : f.Independent) {name' : String} {s₁ s₂ : σ}
    (h₁ : f.member .json seen s name t = .ok s₁) (h₂ : f.member .json (name :: seen) s₁ name' u = .ok s₂) :
    ∃ s₁', f.member .json seen s name' u = .ok s₁' ∧ f.member .json (name' :: seen) s₁' name t = .ok s₂ := by
  simp only [member_eq_ok_iff, List.mem_cons, not_or] at h₁ h₂ ⊢
  obtain ⟨g, hg, hseen, hread⟩ | ⟨hg, hstrict, ht, rfl⟩ := h₁
  · obtain ⟨g', hg', ⟨hne, hseen'⟩, hread'⟩ | ⟨hg', hstrict, hu, rfl⟩ := h₂
    · obtain ⟨hmem, rfl⟩ := mem_and_name_of_find? hg
      obtain ⟨hmem', rfl⟩ := mem_and_name_of_find? hg'
      have hboth : (g.read .json t s).bind (g'.read .json u) = .ok s₂ :=
        Outcome.bind_eq_ok_iff.2 ⟨s₁, hread, hread'⟩
      obtain ⟨s₁', hu, ht⟩ := Outcome.bind_eq_ok_iff.1 (hf g hmem g' hmem' (Ne.symm hne) _ _ _ _ hboth)
      exact ⟨s₁', .inl ⟨g', hg', hseen', hu⟩, .inl ⟨g, hg, ⟨Ne.symm hne, hseen⟩, ht⟩⟩
    · refine ⟨s, .inr ⟨hg', hstrict, hu, rfl⟩, .inl ⟨g, hg, ⟨?_, hseen⟩, hread⟩⟩
      rintro rfl
      exact nomatch hg.symm.trans hg'
  · obtain ⟨g', hg', ⟨-, hseen'⟩, hread'⟩ | ⟨hg', -, hu, rfl⟩ := h₂
    · exact ⟨s₂, .inl ⟨g', hg', hseen', hread'⟩, .inr ⟨hg, hstrict, ht, rfl⟩⟩
    · exact ⟨s, .inr ⟨hg', hstrict, hu, rfl⟩, .inr ⟨hg, hstrict, ht, rfl⟩⟩

/-- Of the names seen before, only counts which they are. -/
theorem members_congr_seen (hseen : ∀ name, name ∈ seen ↔ name ∈ seen')
    (h : f.members .json ending seen s members = .ok s') :
    f.members .json ending seen' s members = .ok s' := by
  induction members generalizing seen seen' s with
  | nil => exact h
  | cons m members ih =>
    obtain ⟨name, s₁, hkey, hmember, hrest⟩ := members_cons_eq_ok_iff.1 h
    refine members_cons_eq_ok_iff.2 ⟨name, s₁, hkey, ?_, ih (fun n => ?_) hrest⟩
    · rwa [member_eq_ok_iff, ← hseen, ← member_eq_ok_iff]
    · rw [List.mem_cons, List.mem_cons, hseen]

/-- The members of an object may stand in any order. -/
theorem members_perm (hf : f.Independent) (hperm : members.Perm members')
    (h : f.members .json ending seen s members = .ok s') :
    f.members .json ending seen s members' = .ok s' := by
  induction hperm generalizing seen s with
  | nil => exact h
  | cons m _ ih =>
    obtain ⟨name, s₁, hkey, hmember, hrest⟩ := members_cons_eq_ok_iff.1 h
    exact members_cons_eq_ok_iff.2 ⟨name, s₁, hkey, hmember, ih hrest⟩
  | swap m n members =>
    obtain ⟨name, s₁, hkey, hmember, hrest⟩ := members_cons_eq_ok_iff.1 h
    obtain ⟨name', s₂, hkey', hmember', hrest'⟩ := members_cons_eq_ok_iff.1 hrest
    obtain ⟨s₁', hfirst, hsecond⟩ := member_swap hf hmember hmember'
    refine members_cons_eq_ok_iff.2 ⟨name', s₁', hkey', hfirst, ?_⟩
    refine members_cons_eq_ok_iff.2 ⟨name, s₂, hkey, hsecond, members_congr_seen (fun n => ?_) hrest'⟩
    simp only [List.mem_cons]
    tauto
  | trans _ _ ih₁ ih₂ => exact ih₂ (ih₁ h)

/-- The value of a member may give way to one that its field reads alike. -/
theorem members_replace (hwf : t.wellFormed = u.wellFormed)
    (hread : ∀ g, f.FieldAt (.member key) g → ∀ s s', g.read .json t s = .ok s' → g.read .json u s = .ok s')
    (h : f.members .json ending seen s (before ++ (key, t) :: after) = .ok s') :
    f.members .json ending seen s (before ++ (key, u) :: after) = .ok s' := by
  induction before generalizing seen s with
  | nil =>
    obtain ⟨name, s₁, rfl, hmember, hrest⟩ := members_cons_eq_ok_iff.1 h
    refine members_cons_eq_ok_iff.2 ⟨name, s₁, rfl, ?_, hrest⟩
    rw [member_eq_ok_iff] at hmember ⊢
    obtain ⟨g, hg, hseen, ht⟩ | ⟨hg, hstrict, ht, rfl⟩ := hmember
    · obtain ⟨hmem, rfl⟩ := mem_and_name_of_find? hg
      exact .inl ⟨g, hg, hseen, hread g (.member hmem) s s₁ ht⟩
    · exact .inr ⟨hg, hstrict, hwf ▸ ht, rfl⟩
  | cons m before ih =>
    obtain ⟨name, s₁, hkey, hmember, hrest⟩ := members_cons_eq_ok_iff.1 h
    exact members_cons_eq_ok_iff.2 ⟨name, s₁, hkey, hmember, ih hrest⟩

theorem items_cons_eq_ok_iff {i : Nat} {g : Field σ} {gs : List (Field σ)} {ts : List Tree} :
    f.items .json ending i s (g :: gs) (t :: ts) = .ok s' ↔
      ∃ s₁, g.read .json t s = .ok s₁ ∧ f.items .json ending (i + 1) s₁ gs ts = .ok s' := by
  rw [Fields.items]
  cases g.read .json t s <;> simp

/-- The value of an item may give way to one that the field at its place reads alike. -/
theorem items_replace {i : Nat} {gs : List (Field σ)} {before after : List Tree}
    (hread : ∀ g, gs[before.length]? = some g → ∀ s s', g.read .json t s = .ok s' → g.read .json u s = .ok s')
    (h : f.items .json ending i s gs (before ++ t :: after) = .ok s') :
    f.items .json ending i s gs (before ++ u :: after) = .ok s' := by
  induction before generalizing i s gs with
  | nil =>
    cases gs with
    | nil => simp [Fields.items] at h
    | cons g gs =>
      obtain ⟨s₁, hg, hrest⟩ := items_cons_eq_ok_iff.1 h
      exact items_cons_eq_ok_iff.2 ⟨s₁, hread g rfl s s₁ hg, hrest⟩
  | cons b before ih =>
    cases gs with
    | nil => simp [Fields.items] at h
    | cons g gs =>
      obtain ⟨s₁, hg, hrest⟩ := items_cons_eq_ok_iff.1 h
      exact items_cons_eq_ok_iff.2 ⟨s₁, hg, ih hread hrest⟩

end Members

/-- Where the members of an object are put in another order, a record reads the same if the readers of its fields
do so below them. -/
theorem ignoresOrderAt_read {f : Fields σ} (hf : f.Independent) (init : σ)
    (hfield : ∀ step rest g, path = step :: rest → f.FieldAt step g →
      ∀ s, IgnoresOrderAt (fun format t => g.read format t s) rest) :
    IgnoresOrderAt (f.read init) path := by
  intro t u htu s hs
  cases htu with
  | here hperm => exact members_perm hf hperm hs
  | item htu =>
    exact items_replace (fun g hg s => hfield _ _ g rfl (.item hg) s htu) hs
  | member htu =>
    exact members_replace htu.wellFormed_eq (fun g hg s => hfield _ _ g rfl hg s htu) hs

/-- The field with a name reads alike what its reader reads alike. -/
theorem ignoresOrderAt_field (h : IgnoresOrderAt r path) (name : String) (optional : Bool)
    (store : α → σ → σ) (s : σ) :
    IgnoresOrderAt (fun format t => (field name optional r store).read format t s) path :=
  h.map fun a => store a s

end Decode

end TermStructure
