import Mathlib.Logic.Relation
import TermStructure.Proofs.Document.ValueOrder
import TermStructure.Proofs.Table.Defect
import TermStructure.Proofs.Table.Documents

/-!
# Documents in another order

Members of objects and entries of tables are put in another order step by step (`Decode.TableStep`,
`Tree.Reordered`). What is read from a tree before a step is read after it, since the readers ignore the order
of members and a table sorts its entries; and each step can be taken back. So two texts or files whose trees such
steps connect give the same value, or none (`member_order_irrelevant`).
-/

namespace TermStructure

open TermStructure.Tree (InValue EntriesPermuted PathStep ReorderedAt)

variable {α β : Type} {V : Type}

namespace Decode

variable {t u : Tree} {r : Reader V}

/-- The entries of a record, checked as a table. A document and a file call the record by different names. -/
def tableOf (record : String) (r : Reader V) : Reader (Table V) :=
  fun format t => (entries record r format t).bind fun es => check .structural (Table.ofEntries es)

/-- The members of an object in a table's document, or its entries, stand in another order. Within a value, members
may do so where its reader ignores it. -/
inductive TableStep (r : Reader V) : Tree → Tree → Prop where
  | members {path : List PathStep} {t u : Tree} : ReorderedAt path t u →
    (∀ rest, InValue path rest → IgnoresOrderAt r rest) → TableStep r t u
  | entries {t u : Tree} : EntriesPermuted t u → TableStep r t u

theorem TableStep.symm (h : TableStep r t u) : TableStep r u t := by
  cases h with
  | members htu hr => exact .members htu.symm hr
  | entries htu => exact .entries htu.symm

theorem TableStep.tableOf_eq_ok {record : String} {table : Table V} (h : TableStep r t u)
    (ht : tableOf record r .json t = .ok table) : tableOf record r .json u = .ok table := by
  cases h with
  | members htu hr => exact (ignoresOrderAt_entries record hr).bind _ htu table ht
  | entries htu =>
    obtain ⟨es, hes, hcheck⟩ := Outcome.bind_eq_ok_iff.1 ht
    obtain ⟨fs, hfs, hperm⟩ := entries_of_permuted htu hes
    refine Outcome.bind_eq_ok_iff.2 ⟨fs, hfs, ?_⟩
    rwa [← Table.ofEntries_perm hperm]

end Decode

/-! ## Texts and files -/

namespace Files

variable {files : Files} {path text : String}

theorem table_eq (files : Files) (r : Reader V) (path : String) :
    files.table r path = (files.document (Decode.entries "TableFile" r) path).bind fun es =>
      (Table.ofEntries es).mapError .structural := by
  rw [table]
  cases files.document (Decode.entries "TableFile" r) path <;> rfl

theorem curveInput_eq (files : Files) (path : String) :
    files.curveInput path = (files.document Decode.curveDraft path).bind fun d =>
      d.build.mapError .structural := by
  rw [curveInput]
  cases files.document Decode.curveDraft path <;> rfl

/-- A file is read as a document and then checked, as its document would be. -/
theorem document_bind_eq_ok_iff {q : Reader α} {t : Tree} {k : α → Except StructureError β} {b : β}
    (hformat : DocumentFormat.ofPath? path = some .json) (hfile : files.read path = .ok text)
    (htext : Json.read text = ⟨t, true⟩) :
    ((files.document q path).bind fun a => (k a).mapError .structural) = .ok b ↔
      ((q .json t).bind fun a => Decode.check .structural (k a)) = .ok b := by
  simp only [Outcome.bind_eq_ok_iff, document_eq q hformat hfile, Outcome.mapError_eq_ok_iff,
    DocumentFormat.parse_of_read htext, Decode.check_eq_ok_iff]

end Files

/-- From the texts of two trees the same is read, or nothing from either. -/
def ReadAlike (q : Reader α) (t u : Tree) : Prop :=
  ∀ text text', Json.read text = ⟨t, true⟩ → Json.read text' = ⟨u, true⟩ →
    ∀ a, DocumentFormat.json.parse q text = .ok a ↔ DocumentFormat.json.parse q text' = .ok a

/-- From files with the texts of two trees the same is loaded, or nothing from either. -/
def LoadedAlike (load : Files → String → Except FileError α) (t u : Tree) : Prop :=
  ∀ (files files' : Files) (path path' text text' : String),
    DocumentFormat.ofPath? path = some .json → DocumentFormat.ofPath? path' = some .json →
    files.read path = .ok text → files'.read path' = .ok text' →
    Json.read text = ⟨t, true⟩ → Json.read text' = ⟨u, true⟩ →
    ∀ a, load files path = .ok a ↔ load files' path' = .ok a

section Alike

variable {t u : Tree}

/-- What one step keeps is kept by any number of them, and in both directions. -/
theorem read_eq_ok_iff_of_steps {S : Tree → Tree → Prop} {q : Reader α} (hsymm : ∀ {t u}, S t u → S u t)
    (hstep : ∀ {t u}, S t u → ∀ a, q .json t = .ok a → q .json u = .ok a)
    (htu : Relation.ReflTransGen S t u) (a : α) : q .json t = .ok a ↔ q .json u = .ok a := by
  induction htu with
  | refl => exact Iff.rfl
  | tail _ h ih => exact ih.trans ⟨hstep h a, hstep (hsymm h) a⟩

theorem ReadAlike.of_tree {q : Reader α} (h : ∀ a, q .json t = .ok a ↔ q .json u = .ok a) :
    ReadAlike q t u := by
  intro text text' ht hu a
  rw [DocumentFormat.parse_of_read ht, DocumentFormat.parse_of_read hu, h]

theorem ReadAlike.map {q : Reader α} (h : ReadAlike q t u) (f : α → β) :
    ReadAlike (fun format t => (q format t).map f) t u := by
  intro text text' ht hu b
  have hq := h text text' ht hu
  simp only [DocumentFormat.parse_of_read ht, DocumentFormat.parse_of_read hu] at hq ⊢
  simp only [Outcome.map_eq_ok_iff, hq]

theorem LoadedAlike.of_tree {q : Reader α} {k : α → Except StructureError β}
    {load : Files → String → Except FileError β}
    (hload : ∀ files path, load files path = (files.document q path).bind fun a =>
      (k a).mapError .structural)
    (h : ∀ b, ((q .json t).bind fun a => Decode.check .structural (k a)) = .ok b ↔
      ((q .json u).bind fun a => Decode.check .structural (k a)) = .ok b) :
    LoadedAlike load t u := by
  intro files files' path path' text text' hformat hformat' hfile hfile' ht hu b
  rw [hload, hload, Files.document_bind_eq_ok_iff hformat hfile ht,
    Files.document_bind_eq_ok_iff hformat' hfile' hu, h]

theorem LoadedAlike.map {load : Files → String → Except FileError α} (h : LoadedAlike load t u) (f : α → β) :
    LoadedAlike (fun files path => (load files path).map f) t u := by
  intro files files' path path' text text' hformat hformat' hfile hfile' ht hu b
  simp only [Outcome.map_eq_ok_iff,
    h files files' path path' text text' hformat hformat' hfile hfile' ht hu]

end Alike

/-- The members of an object stand in another order. -/
def Tree.Reordered (t u : Tree) : Prop :=
  ∃ path, ReorderedAt path t u

theorem Tree.Reordered.symm {t u : Tree} (h : Reordered t u) : Reordered u t := by
  obtain ⟨path, hpath⟩ := h
  exact ⟨path, hpath.symm⟩

/-- The members of objects may be put in any order, one object after the other and at any depth, and so may the
entries of a table: the texts before and after are both read, as the same value, or neither is. The same holds of
files. Members within the values of a table may change places where the reader of values lets them; the readers of
numbers, texts and truth values do so everywhere. -/
theorem member_order_irrelevant :
    (∀ (V : Type) (r : Reader V) (t u : Tree), Relation.ReflTransGen (Decode.TableStep r) t u →
      ReadAlike (Decode.table r) t u ∧ LoadedAlike (fun files path => files.table r path) t u) ∧
    (∀ t u, Relation.ReflTransGen (fun t u => Tree.Reordered t u ∨ Tree.EntriesPermuted t u) t u →
      ReadAlike Decode.volatilityTable t u ∧ LoadedAlike Files.volatilityTable t u ∧
      ReadAlike (Decode.table Decode.float) t u ∧ ReadAlike (Decode.table Decode.int64) t u ∧
      ReadAlike (Decode.table Decode.string) t u ∧ ReadAlike (Decode.table Decode.bool) t u) ∧
    ∀ t u, Relation.ReflTransGen Tree.Reordered t u →
      ReadAlike Decode.quotes t u ∧ ReadAlike Decode.curveInput t u ∧ LoadedAlike Files.curveInput t u := by
  have htables : ∀ (V : Type) (r : Reader V) (t u : Tree), Relation.ReflTransGen (Decode.TableStep r) t u →
      ReadAlike (Decode.table r) t u ∧ LoadedAlike (fun files path => files.table r path) t u := by
    intro V r t u htu
    have hread : ∀ record, ∀ table : Table V, Decode.tableOf record r .json t = .ok table ↔
        Decode.tableOf record r .json u = .ok table :=
      fun record => read_eq_ok_iff_of_steps Decode.TableStep.symm (fun h _ => h.tableOf_eq_ok) htu
    exact ⟨.of_tree (hread "TableDocument"), .of_tree (fun files path => Files.table_eq files r path)
      (hread "TableFile")⟩
  -- Where the reader of values ignores the order everywhere, every step is one of the table.
  have hsteps : ∀ {V : Type} {r : Reader V} {t u : Tree}, (∀ path, Decode.IgnoresOrderAt r path) →
      Relation.ReflTransGen (fun t u => Tree.Reordered t u ∨ Tree.EntriesPermuted t u) t u →
      Relation.ReflTransGen (Decode.TableStep r) t u := by
    intro V r t u hr htu
    refine Relation.ReflTransGen.mono (fun t u hstep => ?_) t u htu
    rcases hstep with ⟨path, hpath⟩ | hentries
    · exact .members hpath fun rest _ => hr rest
    · exact .entries hentries
  refine ⟨htables, fun t u htu => ?_, fun t u htu => ?_⟩
  · have hfloat := htables _ _ t u (hsteps Decode.ignoresOrderAt_float htu)
    exact ⟨hfloat.1.map VolatilityTable.ofTable, hfloat.2.map VolatilityTable.ofTable, hfloat.1,
      (htables _ _ t u (hsteps (Decode.ignoresOrderAt_integer _ _ _) htu)).1,
      (htables _ _ t u (hsteps Decode.ignoresOrderAt_string htu)).1,
      (htables _ _ t u (hsteps Decode.ignoresOrderAt_bool htu)).1⟩
  · have hread : ∀ {α : Type} {q : Reader α}, (∀ path, Decode.IgnoresOrderAt q path) →
        ∀ a, q .json t = .ok a ↔ q .json u = .ok a := by
      intro α q hq
      refine read_eq_ok_iff_of_steps Tree.Reordered.symm ?_ htu
      rintro t u ⟨path, hpath⟩
      exact hq path hpath
    exact ⟨.of_tree (hread Decode.ignoresOrderAt_quotes), .of_tree (hread Decode.ignoresOrderAt_curveInput),
      .of_tree Files.curveInput_eq (hread Decode.ignoresOrderAt_curveInput)⟩

/-- The first step of a table, and the members of the second one. -/
def lowStep : Tree :=
  .ofMembers [("start", .ofText "0D"), ("end", .ofText "18M"), ("value", .number (.int 1))]

def highStep : List (String × Tree) :=
  [("start", .ofText "18M"), ("value", .number (.int 2))]

/-- Two steps with a note before them. -/
def noted : List (String × Tree) :=
  [("note", .ofItems []), ("entries", .ofItems [lowStep, .ofMembers highStep])]

/-- The steps the other way round with the note after them. -/
def notedLast : List (String × Tree) :=
  [("entries", .ofItems [.ofMembers highStep.reverse, lowStep]), ("note", .ofItems [])]

theorem reflTransGen_noted {S : Tree → Tree → Prop}
    (hmembers : ∀ path t u, ReorderedAt path t u → path.length ≤ 2 → S t u)
    (hentries : ∀ t u, Tree.EntriesPermuted t u → S t u) :
    Relation.ReflTransGen S (.ofMembers noted) (.ofMembers notedLast) := by
  have hswapped : Tree.EntriesPermuted (.ofMembers noted)
      (.ofMembers [("note", .ofItems []), ("entries", .ofItems [.ofMembers highStep, lowStep])]) :=
    @Tree.EntriesPermuted.member [lowStep, .ofMembers highStep] [.ofMembers highStep, lowStep]
      [(some "note", .ofItems [])] [] .closed .closed (.swap _ _ _)
  have hhigh : ReorderedAt [] (.ofMembers highStep) (.ofMembers highStep.reverse) := .here (.swap _ _ _)
  have hreversed : ReorderedAt [.member (some "entries"), .item 0]
      (.ofMembers [("note", .ofItems []), ("entries", .ofItems [.ofMembers highStep, lowStep])])
      (.ofMembers [("note", .ofItems []), ("entries", .ofItems [.ofMembers highStep.reverse, lowStep])]) :=
    @ReorderedAt.member _ _ _ (some "entries") [(some "note", .ofItems [])] [] .closed
      (@ReorderedAt.item _ _ _ [] [lowStep] .closed hhigh)
  have hnote : ReorderedAt []
      (.ofMembers [("note", .ofItems []), ("entries", .ofItems [.ofMembers highStep.reverse, lowStep])])
      (.ofMembers notedLast) := .here (.swap _ _ _)
  exact ((Relation.ReflTransGen.single (hentries _ _ hswapped)).tail
    (hmembers _ _ _ hreversed (by decide))).tail (hmembers _ _ _ hnote (by decide))

theorem readsBack_noted :
    Json.ReadsBack (.ofMembers noted) (.ofMembers noted) ∧
      Json.ReadsBack (.ofMembers notedLast) (.ofMembers notedLast) := by
  have hone : Json.ReadsBack (.number (.int 1)) (.number (.int 1)) := .ofInt (by decide) (by decide)
  have htwo : Json.ReadsBack (.number (.int 2)) (.number (.int 2)) := .ofInt (by decide) (by decide)
  have hlow : Json.ReadsBack lowStep lowStep := .ofMembers_self (by simp [hone, Json.ReadsBack.ofText])
  have hhigh : ∀ m ∈ highStep, Json.ReadsBack m.2 m.2 := by simp [highStep, htwo, Json.ReadsBack.ofText]
  have hnote : Json.ReadsBack (.ofItems []) (.ofItems []) := .ofItems .nil
  have hsteps : Json.ReadsBack (.ofItems [lowStep, .ofMembers highStep])
      (.ofItems [lowStep, .ofMembers highStep]) :=
    .ofItems_self (by simp [hlow, Json.ReadsBack.ofMembers_self hhigh])
  have hreversed : Json.ReadsBack (.ofItems [.ofMembers highStep.reverse, lowStep])
      (.ofItems [.ofMembers highStep.reverse, lowStep]) := by
    have hhigh' : ∀ m ∈ highStep.reverse, Json.ReadsBack m.2 m.2 := fun m hm => hhigh m (List.mem_reverse.1 hm)
    exact .ofItems_self (by simp [hlow, Json.ReadsBack.ofMembers_self hhigh'])
  exact ⟨.ofMembers_self (by simp [noted, hnote, hsteps]), .ofMembers_self (by simp [notedLast, hnote, hreversed])⟩

theorem tableOf_twoSteps {V : Type} {r : Reader V} {low high : V} {record : String} {t : Tree}
    (h : Decode.entries record r .json t = .ok (twoSteps low high).toList) :
    Decode.tableOf record r .json t = .ok (twoSteps low high) := by
  rw [Decode.tableOf, h]
  exact Decode.check_eq_ok_iff.2 (Table.ofEntries_eq_ok_iff.2 ⟨.refl _, tiling_twoSteps low high⟩)

def deposits : List (String × Tree) :=
  [("3M", .number (.int 1)), ("6M", .number (.int 2))]

/-- The members of a curve input but its deposits. -/
def withSwap : List (String × Tree) :=
  [("swap", .ofMembers [("2Y", .number (.int 3))]), ("currency", .ofText "EUR"),
    ("curve_day_count", .ofText "ACT/365"), ("curve_business_day_convention", .ofText "Following"),
    ("cash_day_count", .ofText "ACT/360"), ("swap_day_count", .ofText "30/360"),
    ("spot_date", .ofText "2024-01-02"), ("swap_fixed_leg_interval", .ofText "1Y")]

theorem reflTransGen_deposits :
    Relation.ReflTransGen Tree.Reordered (.ofMembers (("cash", .ofMembers deposits) :: withSwap))
      (.ofMembers (("cash", .ofMembers deposits.reverse) :: withSwap).reverse) := by
  have hinner : ReorderedAt [.member (some "cash")]
      (.ofMembers (("cash", .ofMembers deposits) :: withSwap))
      (.ofMembers (("cash", .ofMembers deposits.reverse) :: withSwap)) :=
    @ReorderedAt.member [] (.ofMembers deposits) (.ofMembers deposits.reverse) (some "cash") []
      (Json.keyed withSwap) .closed (.here (.swap _ _ _))
  have houter : ReorderedAt [] (.ofMembers (("cash", .ofMembers deposits.reverse) :: withSwap))
      (.ofMembers (("cash", .ofMembers deposits.reverse) :: withSwap).reverse) :=
    .here ((List.reverse_perm _).symm.map _)
  exact (Relation.ReflTransGen.single ⟨_, hinner⟩).tail ⟨_, houter⟩

theorem readsBack_deposits :
    Json.ReadsBack (.ofMembers (("cash", .ofMembers deposits) :: withSwap))
        (.ofMembers (("cash", .ofMembers deposits) :: withSwap)) ∧
      Json.ReadsBack (.ofMembers (("cash", .ofMembers deposits.reverse) :: withSwap).reverse)
        (.ofMembers (("cash", .ofMembers deposits.reverse) :: withSwap).reverse) := by
  have hone : Json.ReadsBack (.number (.int 1)) (.number (.int 1)) := .ofInt (by decide) (by decide)
  have htwo : Json.ReadsBack (.number (.int 2)) (.number (.int 2)) := .ofInt (by decide) (by decide)
  have hthree : Json.ReadsBack (.number (.int 3)) (.number (.int 3)) := .ofInt (by decide) (by decide)
  have hdeposits : ∀ m ∈ deposits, Json.ReadsBack m.2 m.2 := by simp [deposits, hone, htwo]
  have hrate : Json.ReadsBack (.ofMembers [("2Y", .number (.int 3))]) (.ofMembers [("2Y", .number (.int 3))]) :=
    .ofMembers_self (by simp [hthree])
  have hswap : ∀ m ∈ withSwap, Json.ReadsBack m.2 m.2 := by simp [withSwap, hrate, Json.ReadsBack.ofText]
  have hcurve : ∀ quotes, (∀ m ∈ quotes, Json.ReadsBack m.2 m.2) →
      ∀ m ∈ ("cash", .ofMembers quotes) :: withSwap, Json.ReadsBack m.2 m.2 :=
    fun quotes hquotes => List.forall_mem_cons.2 ⟨.ofMembers_self hquotes, hswap⟩
  have hreversed := hcurve _ fun m hm => hdeposits m (List.mem_reverse.1 hm)
  exact ⟨.ofMembers_self (hcurve _ hdeposits), .ofMembers_self fun m hm => hreversed m (List.mem_reverse.1 hm)⟩

/-- A table with its note at either end and its entries either way round, and a curve input whose members are
reversed, those of its deposits included. -/
theorem member_order_irrelevant_reversed :
    (∃ text text' : String, Json.read text = ⟨.ofMembers noted, true⟩ ∧
      Json.read text' = ⟨.ofMembers notedLast, true⟩ ∧
      DocumentFormat.json.parse (Decode.table Decode.int64) text = .ok (twoSteps 1 2) ∧
      DocumentFormat.json.parse (Decode.table Decode.int64) text' = .ok (twoSteps 1 2) ∧
      Files.volatilityTable ⟨fun _ => .ok text', fun _ => true⟩ "rates.JSON" =
        .ok (.ofTable (twoSteps (Float.ofInt 1) (Float.ofInt 2)))) ∧
    ∃ (text text' : String) (i : CurveInput),
      Json.read text = ⟨.ofMembers (("cash", .ofMembers deposits) :: withSwap), true⟩ ∧
      Json.read text' = ⟨.ofMembers (("cash", .ofMembers deposits.reverse) :: withSwap).reverse, true⟩ ∧
      DocumentFormat.json.parse Decode.curveInput text = .ok i ∧
      DocumentFormat.json.parse Decode.curveInput text' = .ok i := by
  obtain ⟨htable, hvolatility, hcurve⟩ := member_order_irrelevant
  constructor
  · have hread := Json.readsBack_iff.1 readsBack_noted.1
    have hread' := Json.readsBack_iff.1 readsBack_noted.2
    have hints : DocumentFormat.json.parse (Decode.table Decode.int64) (Json.compact (.ofMembers noted)) =
        .ok (twoSteps 1 2) :=
      (DocumentFormat.parse_of_read hread).trans (tableOf_twoSteps rfl)
    have hloaded : Files.table ⟨fun _ => .ok (Json.compact (.ofMembers noted)), fun _ => true⟩ Decode.float
        "rates.JSON" = .ok (twoSteps (Float.ofInt 1) (Float.ofInt 2)) := by
      rw [Files.table_eq, Files.document_bind_eq_ok_iff (by decide) rfl hread]
      exact tableOf_twoSteps rfl
    have hsteps : Relation.ReflTransGen (Decode.TableStep Decode.int64) (.ofMembers noted)
        (.ofMembers notedLast) := by
      refine reflTransGen_noted (fun path t u hpath hlength => ?_) fun t u => .entries
      refine .members hpath fun rest hvalue => ?_
      cases hvalue
      simp at hlength
    have hsteps' : Relation.ReflTransGen (fun t u => Tree.Reordered t u ∨ Tree.EntriesPermuted t u)
        (.ofMembers noted) (.ofMembers notedLast) :=
      reflTransGen_noted (fun path t u hpath _ => .inl ⟨path, hpath⟩) fun t u => .inr
    have hints' := ((htable _ _ _ _ hsteps).1 _ _ hread hread' _).1 hints
    have hloaded' := ((hvolatility _ _ hsteps').2.1 _ ⟨fun _ => .ok _, fun _ => true⟩ "rates.JSON" "rates.JSON"
      _ _ (by decide) (by decide) rfl rfl hread hread' _).1 (Outcome.map_eq_ok_iff.2 ⟨_, hloaded, rfl⟩)
    exact ⟨_, _, hread, hread', hints, hints', hloaded'⟩
  · have hread := Json.readsBack_iff.1 readsBack_deposits.1
    have hread' := Json.readsBack_iff.1 readsBack_deposits.2
    obtain ⟨i, hi⟩ : ∃ i, Decode.curveInput .json (.ofMembers (("cash", .ofMembers deposits) :: withSwap)) =
        .ok i := Outcome.exists_eq_ok (by decide +kernel)
    have hparse := (DocumentFormat.parse_of_read hread).trans hi
    have halike := (hcurve _ _ reflTransGen_deposits).2.1 _ _ hread hread' i
    exact ⟨_, _, i, hread, hread', hparse, halike.1 hparse⟩

end TermStructure
