import TermStructure.Command.Run
import TermStructure.Proofs.Document.Records
import TermStructure.Proofs.Outcome
import TermStructure.Proofs.Toml.Keys

/-!
# Keys of settings

The holiday files of regions stand in a table of a TOML document, in which no key stands twice. So the settings of
a run name one file for each key (`Command.keysDistinct_settings`). In the order of the keys, each entry then has a
greater key than those before it (`Settings.pairwise_calendarsInOrder`).
-/

namespace TermStructure

/-! ## What a record keeps -/

namespace Decode

variable {σ α : Type} {P : σ → Prop} {Q : Tree → Prop} {format : DocumentFormat} {ending : Ending}
  {f : Fields σ} {s s' : σ}

/-- A field that is read from a tree with `Q` leaves `P` true of the state. -/
def Field.Keeps (format : DocumentFormat) (Q : Tree → Prop) (P : σ → Prop) (g : Field σ) : Prop :=
  ∀ t s s', Q t → P s → g.read format t s = .ok s' → P s'

theorem keeps_field {name : String} {optional : Bool} {r : Reader α} {store : α → σ → σ}
    (h : ∀ t a s, Q t → P s → r format t = .ok a → P (store a s)) :
    (field name optional r store).Keeps format Q P := by
  intro t s s' ht hs hread
  rw [read_field] at hread
  obtain ⟨a, ha, rfl⟩ := Outcome.map_eq_ok_iff.1 hread
  exact h t a s ht hs ha

theorem keeps_members {ms : List (Key × Tree)} {seen : List String}
    (hf : ∀ g ∈ f.fields, g.Keeps format Q P) (hms : ∀ m ∈ ms, Q m.2) (hs : P s)
    (h : f.members format ending seen s ms = .ok s') : P s' := by
  induction ms generalizing seen s with
  | nil =>
    rw [Fields.members] at h
    obtain ⟨-, rfl⟩ := Outcome.ite_eq_ok_iff.1 h
    exact hs
  | cons m ms ih =>
    obtain ⟨hm, hrest⟩ := List.forall_mem_cons.1 hms
    obtain ⟨key, t⟩ := m
    cases key with
    | none =>
      rw [Fields.members] at h
      cases h
    | some name =>
      rw [Fields.members] at h
      split at h
      · cases h
      next s₁ hs₁ =>
        refine ih hrest ?_ h
        unfold Fields.member at hs₁
        split at hs₁
        next g hg =>
          split at hs₁
          · cases hs₁
          · exact hf g (List.mem_of_find?_eq_some hg) t s s₁ hm hs hs₁
        · split at hs₁
          · cases hs₁
          · obtain ⟨-, rfl⟩ := Outcome.ite_eq_ok_iff.1 hs₁
            exact hs

theorem keeps_items {gs : List (Field σ)} {ts : List Tree} {i : Nat}
    (hgs : ∀ g ∈ gs, g.Keeps format Q P) (hts : ∀ t ∈ ts, Q t) (hs : P s)
    (h : f.items format ending i s gs ts = .ok s') : P s' := by
  induction gs generalizing i s ts with
  | nil =>
    rw [Fields.items] at h
    obtain ⟨-, rfl⟩ := Outcome.ite_eq_ok_iff.1 h
    exact hs
  | cons g gs ih =>
    obtain ⟨hg, hgs⟩ := List.forall_mem_cons.1 hgs
    cases ts with
    | nil =>
      rw [Fields.items] at h
      split at h
      · exact nomatch h
      · split at h
        · exact ih hgs hts hs h
        · exact nomatch h
    | cons t ts =>
      obtain ⟨ht, hts⟩ := List.forall_mem_cons.1 hts
      rw [Fields.items] at h
      split at h
      · exact nomatch h
      next s₁ hs₁ => exact ih hgs hts (hg t s s₁ ht hs hs₁) h

/-- What each field keeps is kept by the record, if the tree has its property also inside. -/
theorem keeps_read {t : Tree} (hf : ∀ g ∈ f.fields, g.Keeps format Q P)
    (hitems : ∀ ts ending, t.items? = some (ts, ending) → ∀ u ∈ ts, Q u)
    (hmembers : ∀ ms ending, t.members? = some (ms, ending) → ∀ m ∈ ms, Q m.2) (hs : P s)
    (h : f.read s format t = .ok s') : P s' := by
  unfold Fields.read at h
  split at h
  next ts ending hts => exact keeps_items hf (hitems ts ending hts) hs h
  next ms ending _ hms => exact keeps_members hf (hmembers ms ending hms) hs h
  · unfold mismatch at h
    split at h
    · exact nomatch h
    · exact nomatch h

end Decode

/-! ## Keys -/

namespace Settings

variable {s : Settings} {cs : List (String × String)} {format : DocumentFormat} {t : Tree}

/-- No key names two holiday files. -/
def KeysDistinct (s : Settings) : Prop :=
  (s.calendars.map Prod.fst).Nodup

theorem keys_texts {ms : List (Key × Tree)} {ending : Ending} (h : texts format ending ms = .ok cs) :
    (cs.map Prod.fst).map some = ms.map Prod.fst := by
  induction ms generalizing cs with
  | nil =>
    rw [texts] at h
    obtain ⟨-, rfl⟩ := Outcome.ite_eq_ok_iff.1 h
    rfl
  | cons m ms ih =>
    obtain ⟨key, t⟩ := m
    cases key with
    | none => exact nomatch h
    | some name =>
      rw [texts] at h
      split at h
      · exact nomatch h
      · split at h
        · exact nomatch h
        next hrest =>
          obtain rfl := Except.ok.inj h
          rw [List.map_cons, List.map_cons, List.map_cons, ih hrest]

theorem nodup_keys_paths (ht : t.KeysDistinct) (h : paths format t = .ok cs) :
    (cs.map Prod.fst).Nodup := by
  obtain ⟨-, hkeys, -⟩ := ht
  unfold paths at h
  split at h
  next ms ending hms =>
    apply List.Nodup.of_map some
    rw [keys_texts h]
    exact hkeys ms ending hms
  · unfold Decode.mismatch at h
    split at h
    · exact nomatch h
    · exact nomatch h

theorem keeps_fields :
    ∀ g ∈ fields.fields, g.Keeps format Tree.KeysDistinct KeysDistinct := by
  -- Only the last field stores paths.
  refine List.forall_mem_cons.2 ⟨?_, List.forall_mem_cons.2 ⟨?_, List.forall_mem_cons.2 ⟨?_,
    List.forall_mem_cons.2 ⟨?_, List.forall_mem_singleton.2 ?_⟩⟩⟩⟩
  · exact Decode.keeps_field fun t a s _ hs _ => hs
  · exact Decode.keeps_field fun t a s _ hs _ => hs
  · exact Decode.keeps_field fun t a s _ hs _ => hs
  · exact Decode.keeps_field fun t a s _ hs _ => hs
  · exact Decode.keeps_field fun t a s ht _ ha => nodup_keys_paths ht ha

theorem keysDistinct_parse {text : String} (h : parse text = .ok s) : s.KeysDistinct := by
  unfold parse DocumentFormat.parse at h
  dsimp only at h
  split at h
  next t ht =>
    obtain ⟨hitems, -, hmembers⟩ := Toml.keysDistinct_of_read ht
    have hnone : KeysDistinct {} := List.nodup_nil
    exact Decode.keeps_read keeps_fields hitems hmembers hnone h
  · exact nomatch h

/-! ## The order of keys -/

theorem perm_calendarsInOrder (s : Settings) : s.calendarsInOrder.Perm s.calendars :=
  List.mergeSort_perm _ _

theorem mem_calendarsInOrder {c : String × String} : c ∈ s.calendarsInOrder ↔ c ∈ s.calendars :=
  s.perm_calendarsInOrder.mem_iff

theorem pairwise_calendarsInOrder (h : s.KeysDistinct) :
    s.calendarsInOrder.Pairwise fun a b => a.1 < b.1 := by
  have hsorted : s.calendarsInOrder.Pairwise fun a b => decide (a.1 ≤ b.1) = true := by
    apply List.pairwise_mergeSort
    · intro a b c hab hbc
      exact decide_eq_true (String.le_trans (of_decide_eq_true hab) (of_decide_eq_true hbc))
    · intro a b
      simpa using String.le_total a.1 b.1
  have hnodup : (s.calendarsInOrder.map Prod.fst).Nodup :=
    (s.perm_calendarsInOrder.map Prod.fst).nodup_iff.2 h
  have hne : s.calendarsInOrder.Pairwise fun a b => a.1 ≠ b.1 := List.pairwise_map.1 hnodup
  exact (hsorted.and hne).imp fun ⟨hle, hne⟩ => Std.lt_of_le_of_ne (of_decide_eq_true hle) hne

end Settings

/-- Settings that are loaded have distinct keys. -/
theorem Command.keysDistinct_settings {files : Files} {config : Option String} {s : Settings}
    (h : settings files config = .ok s) : s.KeysDistinct := by
  have hfile : ∀ path, settingsOf files path = .ok s → s.KeysDistinct := by
    intro path h
    unfold settingsOf at h
    split at h
    · exact nomatch h
    · split at h
      · exact nomatch h
      next hparse =>
        obtain rfl := Except.ok.inj h
        exact Settings.keysDistinct_parse hparse
  unfold settings at h
  split at h
  · exact hfile _ h
  · split at h
    · exact hfile _ h
    · obtain rfl := Except.ok.inj h
      exact List.nodup_nil

end TermStructure
