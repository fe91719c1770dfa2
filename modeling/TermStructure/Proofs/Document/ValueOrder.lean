import Mathlib.Data.List.Perm.Basic
import TermStructure.Proofs.Curve.Quotes
import TermStructure.Proofs.Document.MemberOrder
import TermStructure.Proofs.Document.Segments

/-!
# The order of members in domain values

Each reader of a domain value ignores the order of members: a leaf is no object, a name among alternatives stands
alone in one, quotes are sorted by their tenors, and the fields of entries and curve inputs are independent. The
value of an entry is read by a reader of the caller's, so below it the order counts if it does for that reader.
The entries of a table are read in the order of the document: those of a permuted array are permuted
(`Decode.entries_of_permuted`).
-/

namespace TermStructure

open TermStructure.Tree (ReorderedAt PathStep)

variable {α : Type} {V : Type}

namespace Decode

variable {path : List PathStep} {t u : Tree}

/-! ## Leaves and alternatives -/

theorem ignoresOrderAt_text (expected : String) (k : String → Decoded α) (path : List PathStep) :
    IgnoresOrderAt (fun _ t => (text expected t).bind k) path :=
  .of_leaf (by intros; nofun) (by intros; nofun) path

theorem ignoresOrderAt_string (path : List PathStep) : IgnoresOrderAt string path :=
  .of_leaf (by intros; nofun) (by intros; nofun) path

theorem ignoresOrderAt_float (path : List PathStep) : IgnoresOrderAt float path :=
  .of_leaf (by intros; nofun) (by intros; nofun) path

theorem ignoresOrderAt_integer (kind : String) (low high : Int) (path : List PathStep) :
    IgnoresOrderAt (integer kind low high) path :=
  .of_leaf (by intros; nofun) (by intros; nofun) path

theorem ignoresOrderAt_bool (path : List PathStep) : IgnoresOrderAt bool path :=
  .of_leaf (by intros; nofun) (by intros; nofun) path

theorem ignoresOrderAt_tenor (path : List PathStep) : IgnoresOrderAt tenor path :=
  ignoresOrderAt_text _ _ path

theorem ignoresOrderAt_date (path : List PathStep) : IgnoresOrderAt date path :=
  ignoresOrderAt_text _ _ path

theorem ignoresOrderAt_dayCount (path : List PathStep) : IgnoresOrderAt dayCount path :=
  ignoresOrderAt_text _ _ path

theorem ignoresOrderAt_identifier (path : List PathStep) : IgnoresOrderAt identifier path :=
  ignoresOrderAt_text _ _ path

theorem exists_of_jsonVariant {v : Variants α} {members : List (Key × Tree)} {ending : Ending} {a : α}
    (h : jsonVariant v members ending = .ok a) : ∃ name, members = [(some name, .null)] := by
  unfold jsonVariant at h
  split at h
  · simp at h
  · simp at h
  next name t rest =>
    split at h
    · simp at h
    · split at h
      · split at h
        next hrest => exact ⟨name, by rw [List.isEmpty_iff.1 hrest.1]⟩
        · simp at h
      · simp only [mismatch] at h
        split at h <;> simp at h

theorem ignoresOrderAt_variant (v : Variants α) (path : List PathStep) :
    IgnoresOrderAt (variant v) path := by
  intro t u htu a ha
  cases htu with
  | here hperm =>
    obtain ⟨name, rfl⟩ := exists_of_jsonVariant ha
    obtain rfl := List.singleton_perm.1 hperm
    exact ha
  | item => exact nomatch ha
  | @member _ t u key before after ending htu =>
    -- The only member of the object is a null, in which nothing can be reordered.
    obtain ⟨name, hmembers⟩ := exists_of_jsonVariant ha
    have hmem : (key, t) ∈ [(some name, Tree.null)] := hmembers ▸ by simp
    obtain ⟨rfl, rfl⟩ := Prod.mk.inj (List.mem_singleton.1 hmem)
    exact nomatch htu

/-! ## Quotes -/

theorem ending_of_rates {ending : Ending} {members : List (Key × Tree)} {q r : Quotes}
    (h : rates .json ending q members = .ok r) : ending = .closed := by
  induction members generalizing q with
  | nil => exact (Outcome.ite_eq_ok_iff.1 h).1
  | cons m members ih =>
    obtain ⟨_ | name, t⟩ := m
    · simp [rates] at h
    · rw [rates] at h
      repeat' split at h
      all_goals first | exact ih h | simp at h

theorem quotes_object_eq_ok_iff {ending : Ending} {members : List (Key × Tree)} {q : Quotes} :
    quotes .json (.object members ending) = .ok q ↔
      ending = .closed ∧ ∃ ps, List.Forall₂ IsQuote ps members ∧ q.points.Perm ps := by
  change rates .json ending .empty members = .ok q ↔ _
  constructor
  · intro h
    obtain ⟨ps, hps, hq⟩ := exists_of_rates h
    exact ⟨ending_of_rates h, ps, hps, Quotes.ofPairs_eq_ok_iff.1 hq⟩
  · rintro ⟨rfl, ps, hps, hq⟩
    rw [rates_eq hps, check_eq_ok_iff]
    exact Quotes.ofPairs_eq_ok_iff.2 hq

theorem ignoresOrderAt_quotes (path : List PathStep) : IgnoresOrderAt quotes path := by
  intro t u htu q hq
  cases htu with
  | here hperm =>
    obtain ⟨hclosed, ps, hps, hpoints⟩ := quotes_object_eq_ok_iff.1 hq
    obtain ⟨ps', hmembers, hps'⟩ := List.perm_comp_forall₂ hperm.symm hps.flip
    exact quotes_object_eq_ok_iff.2 ⟨hclosed, ps', hmembers.flip, hpoints.trans hps'.symm⟩
  | item => exact nomatch hq
  | @member _ t u key before after ending htu =>
    -- A rate is a number, in which nothing can be reordered.
    obtain ⟨hclosed, ps, hps, hpoints⟩ := quotes_object_eq_ok_iff.1 hq
    have hrate : ∀ p, IsQuote p (key, t) → IsQuote p (key, u) := by
      rintro p ⟨-, n, rfl, -⟩
      exact nomatch htu
    have hreplaced : List.Forall₂ (flip IsQuote) (before ++ (key, u) :: after) ps :=
      forall₂_replace hrate hps.flip
    exact quotes_object_eq_ok_iff.2 ⟨hclosed, ps, hreplaced.flip, hpoints⟩

/-! ## Curve inputs -/

theorem independent_curveFields : curveFields.Independent := by
  intro g hg h hh hne
  simp only [curveFields, List.mem_cons, List.not_mem_nil, or_false] at hg hh
  rcases hg with rfl | rfl | rfl | rfl | rfl | rfl | rfl | rfl | rfl | rfl <;>
    rcases hh with rfl | rfl | rfl | rfl | rfl | rfl | rfl | rfl | rfl | rfl <;>
    first
    | exact absurd rfl hne
    | exact commutes_field fun _ _ _ => rfl

theorem ignoresOrderAt_curveDraft (path : List PathStep) : IgnoresOrderAt curveDraft path := by
  refine ignoresOrderAt_read independent_curveFields _ fun step rest g _ hg s => ?_
  have hfield : ∀ {γ : Type} {r : Reader γ} {name store}, (∀ path, IgnoresOrderAt r path) →
      g = curveField name r store → IgnoresOrderAt (fun format t => g.read format t s) rest := by
    rintro γ r name store hr rfl
    exact ignoresOrderAt_field (hr rest).nullable name false store s
  have hmem := hg.mem
  simp only [curveFields, List.mem_cons, List.not_mem_nil, or_false] at hmem
  rcases hmem with h | h | h | h | h | h | h | h | h | h
  · exact hfield (ignoresOrderAt_variant currencies) h
  · exact hfield ignoresOrderAt_dayCount h
  · exact hfield (ignoresOrderAt_variant conventions) h
  · exact hfield ignoresOrderAt_dayCount h
  · exact hfield ignoresOrderAt_dayCount h
  · exact hfield ignoresOrderAt_date h
  · exact hfield ignoresOrderAt_identifier h
  · exact hfield ignoresOrderAt_tenor h
  · exact hfield ignoresOrderAt_quotes h
  · exact hfield ignoresOrderAt_quotes h

theorem ignoresOrderAt_curveInput (path : List PathStep) : IgnoresOrderAt curveInput path :=
  (ignoresOrderAt_curveDraft path).bind _

end Decode

/-! ## Entries -/

namespace Tree

/-- Behind a path from a table's document to the value of an entry stands another path. -/
inductive InValue : List PathStep → List PathStep → Prop where
  | intro {toEntries toValue : PathStep} {i : Nat} {rest : List PathStep} :
    toEntries = .member (some "entries") ∨ toEntries = .item 0 →
    toValue = .member (some "value") ∨ toValue = .item 2 →
    InValue (toEntries :: .item i :: toValue :: rest) rest

/-- The entries in a table's document stand in another order. -/
inductive EntriesPermuted : Tree → Tree → Prop where
  | member {ts us : List Tree} {before after : List (Key × Tree)} {inner outer : Ending} :
    ts.Perm us → EntriesPermuted
      (.object (before ++ (some "entries", .array ts inner) :: after) outer)
      (.object (before ++ (some "entries", .array us inner) :: after) outer)
  | item {ts us rest : List Tree} {inner outer : Ending} :
    ts.Perm us → EntriesPermuted (.array (.array ts inner :: rest) outer)
      (.array (.array us inner :: rest) outer)

theorem EntriesPermuted.symm {t u : Tree} (h : EntriesPermuted t u) : EntriesPermuted u t := by
  cases h with
  | member hperm => exact .member hperm.symm
  | item hperm => exact .item hperm.symm

end Tree

namespace Decode

open TermStructure.Tree (InValue EntriesPermuted)

variable {path : List PathStep} {t u : Tree} {r : Reader V}

theorem independent_entryFields (r : Reader V) : (entryFields r).Independent := by
  intro g hg h hh hne
  simp only [entryFields, List.mem_cons, List.not_mem_nil, or_false] at hg hh
  rcases hg with rfl | rfl | rfl <;> rcases hh with rfl | rfl | rfl <;>
    first
    | exact absurd rfl hne
    | exact commutes_field fun _ _ _ => rfl

/-- A step into an entry leads to a bound, or to the value in one of two ways. -/
theorem entryFields_fieldAt {step : PathStep} {g : Field (EntryParts V)}
    (h : (entryFields r).FieldAt step g) : g = startField ∨ g = stopField ∨
      g = valueField r ∧ (step = .member (some "value") ∨ step = .item 2) := by
  cases h with
  | member hmem =>
    simp only [entryFields, List.mem_cons, List.not_mem_nil, or_false] at hmem
    rcases hmem with rfl | rfl | rfl
    · exact .inl rfl
    · exact .inr (.inl rfl)
    · exact .inr (.inr ⟨rfl, .inl rfl⟩)
  | @item i _ hget =>
    rcases i with _ | _ | _ | i
    · exact .inl (Option.some.inj hget).symm
    · exact .inr (.inl (Option.some.inj hget).symm)
    · exact .inr (.inr ⟨(Option.some.inj hget).symm, .inr rfl⟩)
    · simp [entryFields] at hget

theorem ignoresOrderAt_entry
    (hr : ∀ toValue rest, path = toValue :: rest →
      toValue = .member (some "value") ∨ toValue = .item 2 → IgnoresOrderAt r rest) :
    IgnoresOrderAt (entry r) path := by
  have hread : IgnoresOrderAt ((entryFields r).read {}) path := by
    refine ignoresOrderAt_read (independent_entryFields r) _ fun step rest g hpath hg s => ?_
    rcases entryFields_fieldAt hg with rfl | rfl | ⟨rfl, hvalue⟩
    · exact ignoresOrderAt_field (ignoresOrderAt_tenor rest) _ _ _ s
    · exact ignoresOrderAt_field (ignoresOrderAt_tenor rest).nullable _ _ _ s
    · exact ignoresOrderAt_field (hr step rest hpath hvalue) _ _ _ s
  intro t u htu e
  rw [entry_eq, entry_eq]
  exact (hread.bind EntryParts.segment).bind _ htu e

theorem independent_listing (record : String) (q : Reader α) : (listing record q).Independent := by
  intro g hg h hh hne
  obtain rfl := List.mem_singleton.1 hg
  obtain rfl := List.mem_singleton.1 hh
  exact absurd rfl hne

theorem listing_fieldAt {record : String} {q : Reader α} {step : PathStep} {g : Field (Option α)}
    (h : (listing record q).FieldAt step g) : g = field "entries" false q (fun a _ => some a) ∧
      (step = .member (some "entries") ∨ step = .item 0) := by
  cases h with
  | member hmem =>
    obtain rfl := List.mem_singleton.1 hmem
    exact ⟨rfl, .inl rfl⟩
  | @item i _ hget =>
    cases i with
    | zero => exact ⟨(Option.some.inj hget).symm, .inr rfl⟩
    | succ i => simp [listing] at hget

theorem ignoresOrderAt_entries (record : String) (hr : ∀ rest, InValue path rest → IgnoresOrderAt r rest) :
    IgnoresOrderAt (entries record r) path := by
  have hread : IgnoresOrderAt ((listing record (sequence (entry r))).read none) path := by
    refine ignoresOrderAt_read (independent_listing record _) _ fun step rest g hpath hg s => ?_
    obtain ⟨rfl, hentries⟩ := listing_fieldAt hg
    refine ignoresOrderAt_field (ignoresOrderAt_sequence fun i rest' hrest => ?_) _ _ _ s
    refine ignoresOrderAt_entry fun toValue below hbelow hvalue => hr below ?_
    subst hpath hrest hbelow
    exact .intro hentries hvalue
  exact hread.bind (required "entries")

/-! ## The order of entries -/

section Replace

variable {record : String} {q : Reader α} {R : α → α → Prop} {ending : Ending} {s s' : Option α}

/-- If the value of the field gives way to another one, what is read of the record does so, too. -/
theorem members_listing_replace (hq : ∀ a, q .json t = .ok a → ∃ b, q .json u = .ok b ∧ R a b)
    {seen : List String} {before after : List (Key × Tree)}
    (h : (listing record q).members .json ending seen s (before ++ (some "entries", t) :: after) = .ok s') :
    ∃ a b, s' = some a ∧ R a b ∧
      (listing record q).members .json ending seen s (before ++ (some "entries", u) :: after) =
        .ok (some b) := by
  induction before generalizing seen s with
  | nil =>
    obtain ⟨name, s₁, hname, hmember, hrest⟩ := members_cons_eq_ok_iff.1 h
    obtain rfl := Option.some.inj hname
    obtain ⟨rfl, hafter⟩ := members_listing_of_seen record q List.mem_cons_self hrest
    rw [member_listing, if_pos rfl] at hmember
    split at hmember
    · simp at hmember
    next hseen =>
      obtain ⟨a, ha, rfl⟩ := Outcome.map_eq_ok_iff.1 hmember
      obtain ⟨b, hb, hab⟩ := hq a ha
      refine ⟨a, b, rfl, hab, members_cons_eq_ok_iff.2 ⟨"entries", some b, rfl, ?_, hafter _⟩⟩
      rw [member_listing, if_pos rfl, if_neg hseen, hb]
      rfl
  | cons m before ih =>
    obtain ⟨name, s₁, hkey, hmember, hrest⟩ := members_cons_eq_ok_iff.1 h
    obtain ⟨a, b, hs', hab, hread⟩ := ih hrest
    exact ⟨a, b, hs', hab, members_cons_eq_ok_iff.2 ⟨name, s₁, hkey, hmember, hread⟩⟩

theorem items_listing_replace (hq : ∀ a, q .json t = .ok a → ∃ b, q .json u = .ok b ∧ R a b)
    {rest : List Tree} (h : (listing record q).items .json ending 0 s (listing record q).fields (t :: rest) =
      .ok s') :
    ∃ a b, s' = some a ∧ R a b ∧
      (listing record q).items .json ending 0 s (listing record q).fields (u :: rest) = .ok (some b) := by
  obtain ⟨s₁, hfield, hrest⟩ := items_cons_eq_ok_iff.1 h
  obtain ⟨a, ha, rfl⟩ := Outcome.map_eq_ok_iff.1 hfield
  obtain ⟨hend, rfl⟩ := Outcome.ite_eq_ok_iff.1 hrest
  obtain ⟨b, hb, hab⟩ := hq a ha
  refine ⟨a, b, rfl, hab, items_cons_eq_ok_iff.2 ⟨some b, ?_, if_pos hend⟩⟩
  exact Outcome.map_eq_ok_iff.2 ⟨b, hb, rfl⟩

end Replace

/-- Entries in another order are read in this order. -/
theorem entries_of_permuted {record : String} {es : List (Entry V)} (htu : EntriesPermuted t u)
    (h : entries record r .json t = .ok es) : ∃ fs, entries record r .json u = .ok fs ∧ es.Perm fs := by
  have hsequence : ∀ {ts us : List Tree} {ending : Ending}, ts.Perm us →
      ∀ as, sequence (entry r) .json (.array ts ending) = .ok as →
        ∃ bs, sequence (entry r) .json (.array us ending) = .ok bs ∧ as.Perm bs := by
    intro ts us ending hperm as has
    obtain ⟨hread, hclosed⟩ := sequence_array_eq_ok_iff.1 has
    obtain ⟨bs, hus, hbs⟩ := List.perm_comp_forall₂ hperm.symm hread
    exact ⟨bs, sequence_array_eq_ok_iff.2 ⟨hus, hclosed⟩, hbs.symm⟩
  obtain ⟨s, hs, hes⟩ := Outcome.bind_eq_ok_iff.1 h
  have hread : ∃ as bs, s = some as ∧ as.Perm bs ∧
      (listing record (sequence (entry r))).read none .json u = .ok (some bs) := by
    cases htu with
    | member hperm => exact members_listing_replace (hsequence hperm) hs
    | item hperm => exact items_listing_replace (hsequence hperm) hs
  obtain ⟨as, bs, rfl, hperm, hu⟩ := hread
  obtain rfl := Except.ok.inj hes
  exact ⟨bs, Outcome.bind_eq_ok_iff.2 ⟨some bs, hu, rfl⟩, hperm⟩

end Decode

end TermStructure
