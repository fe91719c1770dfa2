import Mathlib.Data.List.Forall2
import TermStructure.Proofs.FirstOf

/-!
# Outcomes

A computation that is put together from others gives a value only if each of them does. A list is worked through
element by element up to the first error (`Outcome.Traverses`).
-/

namespace TermStructure

universe u v w x

variable {α : Type u} {β : Type v} {ε : Type w} {δ : Type x}

namespace Outcome

theorem map_eq_ok_iff {f : α → β} {x : Except ε α} {b : β} :
    x.map f = .ok b ↔ ∃ a, x = .ok a ∧ f a = b := by
  cases x <;> simp [Except.map]

theorem map_eq_error_iff {f : α → β} {x : Except ε α} {e : ε} :
    x.map f = .error e ↔ x = .error e := by
  cases x <;> simp [Except.map]

theorem bind_eq_ok_iff {f : α → Except ε β} {x : Except ε α} {b : β} :
    x.bind f = .ok b ↔ ∃ a, x = .ok a ∧ f a = .ok b := by
  cases x <;> simp [Except.bind]

theorem mapError_eq_ok_iff {f : ε → δ} {x : Except ε α} {a : α} :
    x.mapError f = .ok a ↔ x = .ok a := by
  cases x with
  | error e => exact ⟨nofun, nofun⟩
  | ok b =>
    change Except.ok b = Except.ok a ↔ _
    rw [Except.ok.injEq, Except.ok.injEq]

theorem ite_eq_ok_iff {p : Prop} [Decidable p] {e : ε} {a b : α} :
    (if p then .ok a else .error e : Except ε α) = .ok b ↔ p ∧ a = b := by
  by_cases h : p <;> simp [h]

theorem exists_eq_ok {x : Except ε α} (h : x.toOption.isSome) : ∃ a, x = .ok a := by
  cases x with
  | error e => exact nomatch h
  | ok a => exact ⟨a, rfl⟩

/-- A list is worked through with `g`, one element after the other. -/
structure Traverses (g : α → Except ε β) (f : List α → Except ε (List β)) : Prop where
  nil : f [] = .ok []
  cons : ∀ a as, f (a :: as) = (g a).bind fun b => (f as).map (b :: ·)

namespace Traverses

variable {g : α → Except ε β} {f : List α → Except ε (List β)} {as : List α} {bs : List β} {e : ε}

theorem eq_ok_iff (h : Traverses g f) : f as = .ok bs ↔ List.Forall₂ (fun a b => g a = .ok b) as bs := by
  induction as generalizing bs with
  | nil =>
    rw [h.nil, List.forall₂_nil_left_iff, Except.ok.injEq]
    exact eq_comm
  | cons a as ih =>
    rw [h.cons, bind_eq_ok_iff, List.forall₂_cons_left_iff]
    constructor
    · rintro ⟨b, hb, hmap⟩
      obtain ⟨bs, hbs, rfl⟩ := map_eq_ok_iff.1 hmap
      exact ⟨b, bs, hb, ih.1 hbs, rfl⟩
    · rintro ⟨b, bs, hb, hbs, rfl⟩
      exact ⟨b, hb, map_eq_ok_iff.2 ⟨bs, ih.2 hbs, rfl⟩⟩

theorem exists_eq_ok_iff (h : Traverses g f) : (∃ bs, f as = .ok bs) ↔ ∀ a ∈ as, ∃ b, g a = .ok b := by
  induction as with
  | nil => simp [h.nil]
  | cons a as ih =>
    rw [List.forall_mem_cons, ← ih, h.cons]
    constructor
    · rintro ⟨bs, hbs⟩
      obtain ⟨b, hb, hmap⟩ := bind_eq_ok_iff.1 hbs
      obtain ⟨bs, hbs, -⟩ := map_eq_ok_iff.1 hmap
      exact ⟨⟨b, hb⟩, bs, hbs⟩
    · rintro ⟨⟨b, hb⟩, bs, hbs⟩
      exact ⟨b :: bs, bind_eq_ok_iff.2 ⟨b, hb, map_eq_ok_iff.2 ⟨bs, hbs, rfl⟩⟩⟩

/-- If each result shows what it comes from, then so does the list of them. -/
theorem eq_ok_iff_map (h : Traverses g f) {k : β → α} {P : β → Prop}
    (hg : ∀ a b, g a = .ok b ↔ k b = a ∧ P b) : f as = .ok bs ↔ bs.map k = as ∧ ∀ b ∈ bs, P b := by
  rw [h.eq_ok_iff]
  simp only [hg]
  induction bs generalizing as with
  | nil => simp [eq_comm]
  | cons b bs ih =>
    rw [List.forall₂_cons_right_iff, List.map_cons, List.forall_mem_cons]
    constructor
    · rintro ⟨a, as, ⟨rfl, hb⟩, hrest, rfl⟩
      obtain ⟨rfl, hbs⟩ := ih.1 hrest
      exact ⟨rfl, hb, hbs⟩
    · rintro ⟨rfl, hb, hbs⟩
      exact ⟨k b, bs.map k, ⟨rfl, hb⟩, ih.2 ⟨rfl, hbs⟩, rfl⟩

theorem eq_error_iff (h : Traverses g f) :
    f as = .error e ↔ FirstOf (fun a => ∃ b, g a = .ok b) (fun a => g a = .error e) as := by
  induction as with
  | nil =>
    rw [h.nil]
    exact ⟨nofun, fun hnil => absurd hnil not_firstOf_nil⟩
  | cons a as ih =>
    rw [h.cons, firstOf_cons, ← ih]
    cases g a with
    | error e' => simp [Except.bind]
    | ok b => cases f as <;> simp [Except.bind, Except.map]

end Traverses

theorem traverses_mapM (g : α → Except ε β) : Traverses g (List.mapM g) where
  nil := rfl
  cons a as := by
    rw [List.mapM_cons]
    rfl

end Outcome

end TermStructure
