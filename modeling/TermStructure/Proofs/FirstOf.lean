/-!
# First elements

Where a list is worked through in order, what counts is the first element at which this cannot go on.
-/

namespace TermStructure

universe u

variable {α : Type u} {good bad : α → Prop} {a : α} {l : List α}

/-- Some element of a list is bad, and all elements before it are good. -/
def FirstOf (good bad : α → Prop) (l : List α) : Prop :=
  ∃ before x after, l = before ++ x :: after ∧ (∀ y ∈ before, good y) ∧ bad x

theorem not_firstOf_nil : ¬ FirstOf good bad [] := by
  rintro ⟨before, x, after, heq, -⟩
  simp at heq

theorem firstOf_cons : FirstOf good bad (a :: l) ↔ bad a ∨ good a ∧ FirstOf good bad l := by
  constructor
  · rintro ⟨before, x, after, heq, hbefore, hx⟩
    cases before with
    | nil =>
      obtain ⟨rfl, -⟩ := List.cons.inj heq
      exact Or.inl hx
    | cons b before =>
      obtain ⟨rfl, rfl⟩ := List.cons.inj heq
      rw [List.forall_mem_cons] at hbefore
      exact Or.inr ⟨hbefore.1, before, x, after, rfl, hbefore.2, hx⟩
  · rintro (ha | ⟨ha, before, x, after, rfl, hbefore, hx⟩)
    · exact ⟨[], a, l, rfl, by simp, ha⟩
    · exact ⟨a :: before, x, after, rfl, List.forall_mem_cons.2 ⟨ha, hbefore⟩, hx⟩

/-- In a list without repetitions that is in order, what stands before an element is what is less. -/
theorem firstOf_iff_of_pairwise {lt : α → α → Prop} (hasymm : ∀ a b, lt a b → ¬ lt b a)
    (hl : l.Pairwise lt) :
    FirstOf good bad l ↔ ∃ x ∈ l, bad x ∧ ∀ y ∈ l, lt y x → good y := by
  constructor
  · rintro ⟨before, x, after, rfl, hbefore, hx⟩
    refine ⟨x, by simp, hx, ?_⟩
    intro y hy hyx
    rcases List.mem_append.1 hy with hy | hy
    · exact hbefore y hy
    · rcases List.mem_cons.1 hy with rfl | hy
      · exact absurd hyx (hasymm y y hyx)
      · have hxy := List.rel_of_pairwise_cons (List.pairwise_append.1 hl).2.1 hy
        exact absurd hyx (hasymm x y hxy)
  · rintro ⟨x, hmem, hx, hgood⟩
    obtain ⟨before, after, rfl⟩ := List.append_of_mem hmem
    refine ⟨before, x, after, rfl, ?_, hx⟩
    intro y hy
    have hyx := (List.pairwise_append.1 hl).2.2 y hy x List.mem_cons_self
    exact hgood y (by simp [hy]) hyx

/-- If an element is not good, there is a first one. -/
theorem exists_firstOf (h : ∃ x ∈ l, ¬ good x) : FirstOf good (fun x => ¬ good x) l := by
  induction l with
  | nil => simp at h
  | cons a l ih =>
    rw [firstOf_cons]
    by_cases ha : good a
    · obtain ⟨x, hmem, hx⟩ := h
      rcases List.mem_cons.1 hmem with rfl | hmem
      · exact absurd ha hx
      · exact Or.inr ⟨ha, ih ⟨x, hmem, hx⟩⟩
    · exact Or.inl ha

theorem FirstOf.imp {good' bad' : α → Prop} (hgood : ∀ a, good a → good' a) (hbad : ∀ a, bad a → bad' a)
    (h : FirstOf good bad l) : FirstOf good' bad' l := by
  obtain ⟨before, x, after, heq, hbefore, hx⟩ := h
  exact ⟨before, x, after, heq, fun y hy => hgood y (hbefore y hy), hbad x hx⟩

theorem FirstOf.exists_mem (h : FirstOf good bad l) : ∃ x ∈ l, bad x := by
  obtain ⟨before, x, after, rfl, -, hx⟩ := h
  exact ⟨x, by simp, hx⟩

end TermStructure
