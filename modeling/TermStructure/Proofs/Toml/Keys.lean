import Mathlib.Data.List.Nodup
import TermStructure.Toml.Reader

/-!
# Keys of TOML documents

A key is refused where it stands already, be it that a value is assigned, a table is written out or one comes
about on the way of a path. So no table of a document that is read has a key twice
(`Toml.keysDistinct_of_read`). Tables under construction have this property all along, and every step of the
reader keeps it.
-/

namespace TermStructure

/-- No object has a key twice, neither the tree itself nor one inside it. -/
inductive Tree.KeysDistinct : Tree → Prop
  | intro {t : Tree}
      (items : ∀ ts ending, t.items? = some (ts, ending) → ∀ u ∈ ts, u.KeysDistinct)
      (keys : ∀ ms ending, t.members? = some (ms, ending) → (ms.map Prod.fst).Nodup)
      (members : ∀ ms ending, t.members? = some (ms, ending) → ∀ m ∈ ms, m.2.KeysDistinct) :
      t.KeysDistinct

namespace Tree

variable {ts : List Tree} {ms : List (Key × Tree)} {ending : Ending} {t : Tree}

theorem keysDistinct_of_none (hitems : t.items? = none) (hmembers : t.members? = none) :
    t.KeysDistinct := by
  refine ⟨?_, ?_, ?_⟩
  · rw [hitems]
    exact nofun
  · rw [hmembers]
    exact nofun
  · rw [hmembers]
    exact nofun

theorem keysDistinct_object (hkeys : (ms.map Prod.fst).Nodup) (hms : ∀ m ∈ ms, m.2.KeysDistinct) :
    (object ms ending).KeysDistinct := by
  refine ⟨nofun, ?_, ?_⟩
  · intro ms' ending' h
    obtain ⟨rfl, -⟩ := Prod.mk.inj (Option.some.inj h)
    exact hkeys
  · intro ms' ending' h
    obtain ⟨rfl, -⟩ := Prod.mk.inj (Option.some.inj h)
    exact hms

theorem keysDistinct_of_items (hmembers : t.members? = none) (hitems : t.items? = some (ts, ending))
    (hts : ∀ u ∈ ts, u.KeysDistinct) : t.KeysDistinct := by
  refine ⟨?_, ?_, ?_⟩
  · intro ts' ending' h
    obtain ⟨rfl, -⟩ := Prod.mk.inj (Option.some.inj (hitems.symm.trans h))
    exact hts
  · rw [hmembers]
    exact nofun
  · rw [hmembers]
    exact nofun

/-- The only key of a date is the one that stands for its text. -/
theorem keysDistinct_date (s : String) : (date s).KeysDistinct := by
  have htext : (ofText s).KeysDistinct := keysDistinct_of_none rfl rfl
  refine ⟨nofun, ?_, ?_⟩
  · intro ms ending h
    obtain ⟨rfl, -⟩ := Prod.mk.inj (Option.some.inj h)
    exact List.nodup_singleton _
  · intro ms ending h m hm
    obtain ⟨rfl, -⟩ := Prod.mk.inj (Option.some.inj h)
    rw [List.mem_singleton.1 hm]
    exact htext

end Tree

namespace Toml

/-! ## Tables under construction -/

/-- No table at or below a node has a key twice. -/
inductive Node.KeysDistinct : Node → Prop
  | leaf {t : Tree} : t.KeysDistinct → KeysDistinct (.leaf t)
  | table {origin : Origin} {es : List (String × Node)} (keys : (es.map Prod.fst).Nodup)
      (nodes : ∀ e ∈ es, e.2.KeysDistinct) : KeysDistinct (.table origin es)
  | tables {elements : List (List (String × Node))}
      (keys : ∀ es ∈ elements, (es.map Prod.fst).Nodup)
      (nodes : ∀ es ∈ elements, ∀ e ∈ es, e.2.KeysDistinct) : KeysDistinct (.tables elements)

/-- No key stands twice in a table, nor in one below it. -/
structure Entries.KeysDistinct (es : Entries) : Prop where
  keys : (es.map Prod.fst).Nodup
  nodes : ∀ e ∈ es, e.2.KeysDistinct

variable {es new : Entries} {key : String} {n : Node} {origin : Origin} {t : Tree}
  {elements : List (List (String × Node))} {path : List String} {pairs : List (List String × Tree)}

namespace Node

theorem keysDistinct_table_iff : (table origin es).KeysDistinct ↔ Entries.KeysDistinct es := by
  constructor
  · rintro (_ | ⟨hkeys, hnodes⟩)
    exact ⟨hkeys, hnodes⟩
  · intro h
    exact .table h.keys h.nodes

theorem keysDistinct_tables_iff :
    (tables elements).KeysDistinct ↔ ∀ es ∈ elements, Entries.KeysDistinct es := by
  constructor
  · rintro (_ | _ | ⟨hkeys, hnodes⟩) es hes
    exact ⟨hkeys es hes, hnodes es hes⟩
  · intro h
    exact .tables (fun es hes => (h es hes).keys) fun es hes => (h es hes).nodes

theorem entriesToMembers_eq_map (es : List (String × Node)) :
    entriesToMembers es = es.map fun e => (some e.1, e.2.toTree) := by
  induction es with
  | nil => rfl
  | cons e es ih => rw [entriesToMembers, ih, List.map_cons]

theorem elementsToItems_eq_map (elements : List (List (String × Node))) :
    elementsToItems elements = elements.map fun es => .object (entriesToMembers es) .closed := by
  induction elements with
  | nil => rfl
  | cons es elements ih => rw [elementsToItems, ih, List.map_cons]

theorem keysDistinct_entriesToMembers {es : List (String × Node)} (hkeys : (es.map Prod.fst).Nodup)
    (hnodes : ∀ e ∈ es, e.2.toTree.KeysDistinct) :
    (Tree.object (entriesToMembers es) .closed).KeysDistinct := by
  rw [entriesToMembers_eq_map]
  apply Tree.keysDistinct_object
  · have hsome : (es.map fun e => ((some e.1 : Key), e.2.toTree)).map Prod.fst =
        (es.map Prod.fst).map some := by
      simp only [List.map_map, Function.comp_def]
    rw [hsome]
    exact hkeys.map fun a b h => Option.some.inj h
  · intro m hm
    obtain ⟨e, he, rfl⟩ := List.mem_map.1 hm
    exact hnodes e he

theorem KeysDistinct.toTree (h : n.KeysDistinct) : n.toTree.KeysDistinct := by
  induction h with
  | leaf h =>
    rw [Node.toTree]
    exact h
  | table hkeys _ ih =>
    rw [Node.toTree]
    exact keysDistinct_entriesToMembers hkeys ih
  | tables hkeys _ ih =>
    rw [Node.toTree, elementsToItems_eq_map]
    apply Tree.keysDistinct_of_items rfl rfl
    intro u hu
    obtain ⟨es, hes, rfl⟩ := List.mem_map.1 hu
    exact keysDistinct_entriesToMembers (hkeys es hes) (ih es hes)

end Node

namespace Entries

theorem keysDistinct_nil : KeysDistinct [] :=
  ⟨List.nodup_nil, nofun⟩

theorem mem_of_get? (h : es.get? key = some n) : (key, n) ∈ es := by
  obtain ⟨e, he, rfl⟩ := Option.map_eq_some_iff.1 h
  have hkey : e.1 = key := by simpa using List.find?_some he
  rw [← hkey]
  exact List.mem_of_find?_eq_some he

theorem not_mem_of_get? (h : es.get? key = none) : key ∉ es.map Prod.fst := by
  intro hmem
  obtain ⟨e, he, rfl⟩ := List.mem_map.1 hmem
  have hnone := List.find?_eq_none.1 (Option.map_eq_none_iff.1 h) e he
  simp at hnone

theorem KeysDistinct.of_get? (hes : KeysDistinct es) (h : es.get? key = some n) : n.KeysDistinct :=
  hes.nodes _ (mem_of_get? h)

theorem KeysDistinct.append (hes : KeysDistinct es) (hn : n.KeysDistinct)
    (h : key ∉ es.map Prod.fst) : KeysDistinct (es ++ [(key, n)]) where
  keys := by
    rw [List.map_append, List.map_singleton]
    exact hes.keys.append (List.nodup_singleton key) (by simpa using h)
  nodes := by
    intro e he
    rcases List.mem_append.1 he with he | he
    · exact hes.nodes e he
    · rw [List.mem_singleton.1 he]
      exact hn

theorem KeysDistinct.erase (hes : KeysDistinct es) : KeysDistinct (es.erase key) where
  keys := hes.keys.sublist (List.filter_sublist.map Prod.fst)
  nodes e he := hes.nodes e (List.mem_filter.1 he).1

theorem not_mem_erase : key ∉ (es.erase key).map Prod.fst := by
  intro hmem
  obtain ⟨e, he, rfl⟩ := List.mem_map.1 hmem
  have hne := (List.mem_filter.1 he).2
  simp at hne

theorem mem_put {e : String × Node} (h : e ∈ es.put key n) : e = (key, n) ∨ e ∈ es := by
  induction es with
  | nil => exact Or.inl (List.mem_singleton.1 h)
  | cons a es ih =>
    rw [put] at h
    split at h
    · rcases List.mem_cons.1 h with h | h
      · exact Or.inl h
      · exact Or.inr (List.mem_cons_of_mem a h)
    · rcases List.mem_cons.1 h with h | h
      · exact Or.inr (h ▸ List.mem_cons_self)
      · exact (ih h).imp_right (List.mem_cons_of_mem a)

theorem nodup_keys_put (h : (es.map Prod.fst).Nodup) : ((es.put key n).map Prod.fst).Nodup := by
  induction es with
  | nil => exact List.nodup_singleton key
  | cons a es ih =>
    rw [List.map_cons, List.nodup_cons] at h
    rw [put]
    split
    next hkey =>
      rw [List.map_cons, ← eq_of_beq hkey, List.nodup_cons]
      exact h
    next hkey =>
      rw [List.map_cons, List.nodup_cons]
      refine ⟨?_, ih h.2⟩
      -- Only the key that is put may be new, and it is another one.
      intro hmem
      obtain ⟨e, he, heq⟩ := List.mem_map.1 hmem
      rcases mem_put he with rfl | he
      · exact hkey (beq_iff_eq.2 heq.symm)
      · exact h.1 (heq ▸ List.mem_map_of_mem he)

theorem KeysDistinct.put (hes : KeysDistinct es) (hn : n.KeysDistinct) :
    KeysDistinct (es.put key n) where
  keys := nodup_keys_put hes.keys
  nodes := by
    intro e he
    rcases mem_put he with rfl | he
    · exact hn
    · exact hes.nodes e he

/-! ## Changes -/

/-- A change at the end of a path keeps keys distinct if it does so where it is made: on the way, a table is
put in its own place or under a key that is not there. -/
theorem KeysDistinct.change {dotted : Bool} {edit : Origin → Entries → Option Entries}
    (hedit : ∀ origin es new, KeysDistinct es → edit origin es = some new → KeysDistinct new)
    (hes : KeysDistinct es) (h : es.change dotted edit path origin = some new) :
    KeysDistinct new := by
  induction path generalizing origin es new with
  | nil => exact hedit origin es new hes h
  | cons key path ih =>
    rw [Entries.change] at h
    split at h
    next hnone =>
      obtain ⟨inner, hinner, rfl⟩ := Option.map_eq_some_iff.1 h
      have hdistinct := ih keysDistinct_nil hinner
      exact hes.append (Node.keysDistinct_table_iff.2 hdistinct) (not_mem_of_get? hnone)
    · exact nomatch h
    next hsome =>
      split at h
      · exact nomatch h
      · obtain ⟨inner, hinner, rfl⟩ := Option.map_eq_some_iff.1 h
        have hold := Node.keysDistinct_table_iff.1 (hes.of_get? hsome)
        exact hes.put (Node.keysDistinct_table_iff.2 (ih hold hinner))
    next hsome =>
      have hold := Node.keysDistinct_tables_iff.1 (hes.of_get? hsome)
      split at h
      · exact nomatch h
      next hlast =>
        obtain ⟨inner, hinner, rfl⟩ := Option.map_eq_some_iff.1 h
        apply hes.put
        rw [Node.keysDistinct_tables_iff]
        intro element helement
        rcases List.mem_append.1 helement with helement | helement
        · exact hold element (List.dropLast_subset _ helement)
        · rw [List.mem_singleton.1 helement]
          exact ih (hold _ (List.mem_of_getLast? hlast)) hinner

theorem KeysDistinct.assign (hes : KeysDistinct es) (ht : t.KeysDistinct)
    (h : es.assign path t = some new) : KeysDistinct new := by
  refine hes.change ?_ h
  intro origin es new hes hnew
  split at hnew
  · exact nomatch hnew
  next key hkey =>
    split at hnew
    · exact nomatch hnew
    next hfree =>
      obtain rfl := Option.some.inj hnew
      have hnone : es.get? key = none := by simpa using (not_or.1 hfree).2
      exact hes.append (.leaf ht) (not_mem_of_get? hnone)

theorem KeysDistinct.assignAll (hes : KeysDistinct es) (hpairs : ∀ p ∈ pairs, p.2.KeysDistinct)
    (h : es.assignAll pairs = some new) : KeysDistinct new := by
  induction pairs generalizing es with
  | nil =>
    obtain rfl := Option.some.inj h
    exact hes
  | cons p pairs ih =>
    obtain ⟨hp, hpairs⟩ := List.forall_mem_cons.1 hpairs
    obtain ⟨next, hnext, hrest⟩ := Option.bind_eq_some_iff.1 h
    exact ih (hes.assign hp hnext) hpairs hrest

theorem keysDistinct_ofPairs (hpairs : ∀ p ∈ pairs, p.2.KeysDistinct)
    (h : ofPairs pairs = some t) : t.KeysDistinct := by
  obtain ⟨es, hes, rfl⟩ := Option.map_eq_some_iff.1 h
  have hdistinct := keysDistinct_nil.assignAll hpairs hes
  exact (Node.keysDistinct_table_iff.2 hdistinct).toTree

theorem KeysDistinct.addSection {root : Entries} {heading : Heading} (hroot : KeysDistinct root)
    (hpairs : ∀ p ∈ pairs, p.2.KeysDistinct) (h : root.addSection heading pairs = some new) :
    KeysDistinct new := by
  refine hroot.change ?_ h
  intro origin es new hes hnew
  split at hnew
  · exact nomatch hnew
  next key hkey =>
    split at hnew
    next hnone _ =>
      obtain ⟨inner, hinner, rfl⟩ := Option.map_eq_some_iff.1 hnew
      have hdistinct := keysDistinct_nil.assignAll hpairs hinner
      exact hes.append (Node.keysDistinct_table_iff.2 hdistinct) (not_mem_of_get? hnone)
    next hsome _ =>
      obtain ⟨inner, hinner, rfl⟩ := Option.map_eq_some_iff.1 hnew
      have hold := Node.keysDistinct_table_iff.1 (hes.of_get? hsome)
      exact hes.erase.append (Node.keysDistinct_table_iff.2 (hold.assignAll hpairs hinner))
        not_mem_erase
    next hnone _ =>
      obtain ⟨inner, hinner, rfl⟩ := Option.map_eq_some_iff.1 hnew
      have hdistinct := keysDistinct_nil.assignAll hpairs hinner
      have hnode := Node.keysDistinct_tables_iff.2 (List.forall_mem_singleton.2 hdistinct)
      exact hes.append hnode (not_mem_of_get? hnone)
    next hsome _ =>
      obtain ⟨inner, hinner, rfl⟩ := Option.map_eq_some_iff.1 hnew
      have hdistinct := keysDistinct_nil.assignAll hpairs hinner
      have hold := Node.keysDistinct_tables_iff.1 (hes.of_get? hsome)
      apply hes.put
      rw [Node.keysDistinct_tables_iff, List.forall_mem_append]
      exact ⟨hold, List.forall_mem_singleton.2 hdistinct⟩
    · exact nomatch hnew

end Entries

/-! ## Values -/

/-- Where a scanned value is changed, the text behind it is not. -/
theorem exists_of_scanned {α β : Type} {f : α → β} {scanned : Option (α × List Char)} {b : β}
    {rest : List Char} (h : scanned.map (fun p => (f p.1, p.2)) = some (b, rest)) :
    ∃ a, scanned = some (a, rest) ∧ f a = b := by
  obtain ⟨p, hp, heq⟩ := Option.map_eq_some_iff.1 h
  obtain ⟨hb, hrest⟩ := Prod.mk.inj heq
  exact ⟨p.1, by rw [hp, ← hrest], hb⟩

/-- Whatever is scanned has a property. -/
def Yields {α : Type} (P : α → Prop) (scan : Scan α) : Prop :=
  ∀ cs a rest, scan cs = some (a, rest) → P a

theorem yields_scanLeaf : Yields Tree.KeysDistinct scanLeaf := by
  intro cs t rest h
  unfold scanLeaf at h
  split at h
  · obtain ⟨rfl, -⟩ := Prod.mk.inj (Option.some.inj h)
    exact Tree.keysDistinct_of_none rfl rfl
  · obtain ⟨rfl, -⟩ := Prod.mk.inj (Option.some.inj h)
    exact Tree.keysDistinct_of_none rfl rfl
  · rcases Option.or_eq_some_iff.1 h with h | ⟨-, h⟩
    · obtain ⟨s, -, rfl⟩ := exists_of_scanned h
      exact Tree.keysDistinct_of_none rfl rfl
    · rcases Option.or_eq_some_iff.1 h with h | ⟨-, h⟩
      · obtain ⟨s, -, rfl⟩ := exists_of_scanned h
        exact Tree.keysDistinct_date s
      · obtain ⟨s, -, rfl⟩ := exists_of_scanned h
        exact Tree.keysDistinct_of_none rfl rfl

variable {value : Scan Tree} {P : Tree → Prop}

theorem yields_scanItems (hvalue : Yields P value) (fuel : Nat) :
    Yields (fun ts => ∀ t ∈ ts, P t) (scanItems value fuel) := by
  induction fuel with
  | zero =>
    intro cs ts rest h
    exact nomatch h
  | succ fuel ih =>
    intro cs ts rest h
    rw [scanItems] at h
    split at h
    · exact nomatch h
    · obtain ⟨rfl, -⟩ := Prod.mk.inj (Option.some.inj h)
      exact nofun
    · split at h
      · exact nomatch h
      next hitem =>
        have ht := hvalue _ _ _ hitem
        split at h
        · obtain ⟨more, hmore, rfl⟩ := exists_of_scanned h
          exact List.forall_mem_cons.2 ⟨ht, ih _ _ _ hmore⟩
        · obtain ⟨rfl, -⟩ := Prod.mk.inj (Option.some.inj h)
          exact List.forall_mem_singleton.2 ht
        · exact nomatch h

theorem yields_scanPair? (hvalue : Yields P value) : Yields (fun p => P p.2) (scanPair? value) := by
  intro cs p rest h
  unfold scanPair? at h
  split at h
  · obtain ⟨t, ht, rfl⟩ := exists_of_scanned h
    exact hvalue _ _ _ ht
  · exact nomatch h

theorem yields_scanPairs (hvalue : Yields P value) (fuel : Nat) :
    Yields (fun ps => ∀ p ∈ ps, P p.2) (scanPairs value fuel) := by
  induction fuel with
  | zero =>
    intro cs ps rest h
    exact nomatch h
  | succ fuel ih =>
    intro cs ps rest h
    rw [scanPairs] at h
    split at h
    · exact nomatch h
    next hpair =>
      have hp := yields_scanPair? hvalue _ _ _ hpair
      split at h
      · obtain ⟨more, hmore, rfl⟩ := exists_of_scanned h
        exact List.forall_mem_cons.2 ⟨hp, ih _ _ _ hmore⟩
      · obtain ⟨rfl, -⟩ := Prod.mk.inj (Option.some.inj h)
        exact List.forall_mem_singleton.2 hp
      · exact nomatch h

theorem yields_scanTable (hvalue : Yields Tree.KeysDistinct value) :
    Yields Tree.KeysDistinct (scanTable value) := by
  intro cs t rest h
  unfold scanTable at h
  split at h
  · obtain ⟨rfl, -⟩ := Prod.mk.inj (Option.some.inj h)
    exact Tree.keysDistinct_object List.nodup_nil nofun
  · split at h
    · exact nomatch h
    next hpairs =>
      obtain ⟨u, hu, heq⟩ := Option.map_eq_some_iff.1 h
      obtain ⟨rfl, -⟩ := Prod.mk.inj heq
      exact Entries.keysDistinct_ofPairs (yields_scanPairs hvalue _ _ _ _ hpairs) hu

/-- By induction on the depth: what stands inside is scanned with less of it. -/
theorem yields_scanValue (depth : Nat) : Yields Tree.KeysDistinct (scanValue depth) := by
  induction depth with
  | zero =>
    intro cs t rest h
    unfold scanValue at h
    exact yields_scanLeaf _ _ _ h
  | succ depth ih =>
    intro cs t rest h
    unfold scanValue at h
    split at h
    next hdepth =>
      obtain rfl := Nat.succ.inj hdepth
      obtain ⟨ts, hts, rfl⟩ := exists_of_scanned h
      exact Tree.keysDistinct_of_items rfl rfl (yields_scanItems ih _ _ _ _ hts)
    next hdepth =>
      obtain rfl := Nat.succ.inj hdepth
      exact yields_scanTable ih _ _ _ h
    · exact yields_scanLeaf _ _ _ h

/-! ## Documents -/

/-- The value of a line, if it has one, has distinct keys. -/
def Line.KeysDistinct (l : Line) : Prop :=
  ∀ path t, l = .pair path t → t.KeysDistinct

theorem yields_scanLine : Yields Line.KeysDistinct scanLine := by
  intro cs l rest h path t hl
  unfold scanLine at h
  split at h
  · obtain ⟨heading, -, rfl⟩ := exists_of_scanned h
    exact nomatch hl
  · obtain ⟨p, hp, heq⟩ := Option.map_eq_some_iff.1 h
    obtain ⟨rfl, -⟩ := Prod.mk.inj heq
    obtain ⟨-, rfl⟩ := Line.pair.inj hl
    exact yields_scanPair? (yields_scanValue maxDepth) _ _ _ hp

variable {lines : List Line}

theorem keysDistinct_scanLines {fuel : Nat} {cs : List Char} (h : scanLines fuel cs = some lines) :
    ∀ l ∈ lines, l.KeysDistinct := by
  induction fuel generalizing cs lines with
  | zero => exact nomatch h
  | succ fuel ih =>
    rw [scanLines] at h
    split at h
    · obtain rfl := Option.some.inj h
      exact nofun
    · split at h
      · exact ih h
      · split at h
        · exact nomatch h
        next hline =>
          split at h
          · obtain ⟨more, hmore, rfl⟩ := Option.map_eq_some_iff.1 h
            exact List.forall_mem_cons.2 ⟨yields_scanLine _ _ _ hline, ih hmore⟩
          · exact nomatch h

theorem keysDistinct_leadingPairs (h : ∀ l ∈ lines, l.KeysDistinct) :
    ∀ p ∈ (leadingPairs lines).1, p.2.KeysDistinct := by
  induction lines with
  | nil => exact nofun
  | cons l lines ih =>
    obtain ⟨hl, hlines⟩ := List.forall_mem_cons.1 h
    cases l with
    | pair path t => exact List.forall_mem_cons.2 ⟨hl path t rfl, ih hlines⟩
    | heading heading => exact nofun

theorem keysDistinct_sections (h : ∀ l ∈ lines, l.KeysDistinct) :
    ∀ s ∈ sections lines, ∀ p ∈ s.2, p.2.KeysDistinct := by
  induction lines with
  | nil => exact nofun
  | cons l lines ih =>
    obtain ⟨-, hlines⟩ := List.forall_mem_cons.1 h
    cases l with
    | pair path t => exact ih hlines
    | heading heading =>
      exact List.forall_mem_cons.2 ⟨keysDistinct_leadingPairs hlines, ih hlines⟩

theorem keysDistinct_foldl_addSection {ss : List (Heading × List (List String × Tree))}
    {root : Option Entries} (hss : ∀ s ∈ ss, ∀ p ∈ s.2, p.2.KeysDistinct)
    (hroot : ∀ es ∈ root, Entries.KeysDistinct es) :
    ∀ es ∈ ss.foldl (fun es? s => es?.bind fun es => es.addSection s.1 s.2) root,
      Entries.KeysDistinct es := by
  induction ss generalizing root with
  | nil => exact hroot
  | cons s ss ih =>
    obtain ⟨hs, hss⟩ := List.forall_mem_cons.1 hss
    rw [List.foldl_cons]
    apply ih hss
    intro new hnew
    obtain ⟨es, hes, hadd⟩ := Option.bind_eq_some_iff.1 hnew
    exact (hroot es hes).addSection hs hadd

theorem keysDistinct_treeOfLines (hlines : ∀ l ∈ lines, l.KeysDistinct)
    (h : treeOfLines lines = some t) : t.KeysDistinct := by
  obtain ⟨es, hes, rfl⟩ := Option.map_eq_some_iff.1 h
  have hroot : ∀ es ∈ Entries.assignAll [] (leadingPairs lines).1, Entries.KeysDistinct es := by
    intro es hes
    exact Entries.keysDistinct_nil.assignAll (keysDistinct_leadingPairs hlines) hes
  have hdistinct := keysDistinct_foldl_addSection (keysDistinct_sections hlines) hroot es hes
  exact (Node.keysDistinct_table_iff.2 hdistinct).toTree

/-- No table of a document has a key twice. -/
theorem keysDistinct_of_read {s : String} (h : read s = some t) : t.KeysDistinct := by
  obtain ⟨lines, hlines, htree⟩ := Option.bind_eq_some_iff.1 h
  exact keysDistinct_treeOfLines (keysDistinct_scanLines hlines) htree

end Toml

end TermStructure
