import TermStructure.Command.Table
import TermStructure.Proofs.Table.Interval
import TermStructure.Proofs.Table.Run

/-!
# Looking up tenors

In a tiling the intervals of the entries share out all tenors: each lies in exactly one of them. The
binary search finds that entry (`Table.exists_lookupEntry`): the starts up to a tenor stand in front
(`Search.partitionPoint_eq_countP`), the last of them belongs to the entry, and `0D` is always among
them.
-/

namespace TermStructure

universe u

/-! ## Binary search -/

namespace Search

variable {α : Type u} {p : α → Bool} {xs : Array α}

/-- Everything before `lo` satisfies `p`, and nothing from `hi` on does. -/
structure Bracket (p : α → Bool) (xs : Array α) (lo hi : Nat) : Prop where
  below : ∀ i (h : i < xs.size), i < lo → p xs[i] = true
  above : ∀ i (h : i < xs.size), hi ≤ i → p xs[i] = false

/-- What satisfies `p` stands in front of what does not. -/
def Partitioned (p : α → Bool) (xs : Array α) : Prop :=
  ∀ i j (hj : j < xs.size) (hij : i ≤ j), p xs[j] = true → p xs[i] = true

theorem bracket_partitionBetween (hp : Partitioned p xs) {lo hi : Nat} (h : hi ≤ xs.size)
    (hle : lo ≤ hi) (hb : Bracket p xs lo hi) :
    partitionBetween p xs lo hi h ≤ hi ∧
      Bracket p xs (partitionBetween p xs lo hi h) (partitionBetween p xs lo hi h) := by
  fun_induction partitionBetween p xs lo hi h with
  | case1 lo hi h hlt hmid hpm ih =>
    refine ih (by omega) ⟨fun i hi' hbefore => ?_, hb.above⟩
    exact hp i _ hmid (by omega) hpm
  | case2 lo hi h hlt hmid hpm ih =>
    have habove : ∀ i (h : i < xs.size), (lo + hi) / 2 ≤ i → p xs[i] = false := by
      intro i hi' hafter
      rw [← Bool.not_eq_true]
      exact fun hpi => hpm (hp _ i hi' hafter hpi)
    obtain ⟨hle', hb'⟩ := ih (by omega) ⟨hb.below, habove⟩
    exact ⟨by omega, hb'⟩
  | case3 lo hi h hlt =>
    have heq : lo = hi := by omega
    exact ⟨hle, hb.below, heq ▸ hb.above⟩

theorem countP_eq_of_bracket {n : Nat} (hn : n ≤ xs.size) (hb : Bracket p xs n n) :
    xs.toList.countP p = n := by
  have hbelow : (xs.toList.take n).countP p = n := by
    have hall : ∀ a ∈ xs.toList.take n, p a = true := by
      intro a ha
      obtain ⟨i, hi, rfl⟩ := List.getElem_of_mem ha
      rw [List.length_take, Array.length_toList] at hi
      rw [List.getElem_take]
      exact hb.below i (by omega) (by omega)
    rw [List.countP_eq_length.2 hall, List.length_take, Array.length_toList]
    omega
  have habove : (xs.toList.drop n).countP p = 0 := by
    rw [List.countP_eq_zero]
    intro a ha
    obtain ⟨i, hi, rfl⟩ := List.getElem_of_mem ha
    rw [List.length_drop, Array.length_toList] at hi
    rw [List.getElem_drop, Bool.not_eq_true]
    exact hb.above (n + i) (by omega) (by omega)
  calc xs.toList.countP p
      = (xs.toList.take n).countP p + (xs.toList.drop n).countP p := by
        rw [← List.countP_append, List.take_append_drop]
    _ = n := by rw [hbelow, habove, Nat.add_zero]

/-- Binary search counts what satisfies `p`. -/
theorem partitionPoint_eq_countP (hp : Partitioned p xs) :
    partitionPoint p xs = xs.toList.countP p := by
  have hb : Bracket p xs 0 xs.size :=
    ⟨fun i _ hi => absurd hi (Nat.not_lt_zero i), fun i h hi => absurd h (Nat.not_lt.2 hi)⟩
  obtain ⟨hle, hbracket⟩ := bracket_partitionBetween hp (Nat.le_refl _) (Nat.zero_le _) hb
  exact (countP_eq_of_bracket hle hbracket).symm

end Search

/-! ## The entry of a tenor -/

variable {V : Type u}

/-- Entries that follow each other, from one that starts no later than a tenor to an unbounded one:
one of them contains the tenor, namely the last that starts no later. -/
theorem exists_filter_contains {tenor : Tenor} {a : Entry V} {es : List (Entry V)}
    (hstart : a.start ≤ tenor) (hchain : (a :: es).IsChain fun a b => a.stop = some b.start)
    (hlast : (a :: es).getLast?.map Entry.stop = some none)
    (hsorted : (a :: es).Pairwise fun a b => a.start < b.start) :
    ∃ e, (a :: es)[es.countP (·.start.le tenor)]? = some e ∧
      (a :: es).filter (·.interval.contains tenor) = [e] := by
  induction es generalizing a with
  | nil =>
    have hstop : a.interval.stop = none := Option.some.inj hlast
    have hcontains : a.interval.contains tenor = true := by
      rw [Interval.contains_iff, hstop]
      exact ⟨hstart, by simp⟩
    exact ⟨a, rfl, by simp [hcontains]⟩
  | cons b rest ih =>
    rw [List.isChain_cons_cons] at hchain
    rw [List.getLast?_cons_cons] at hlast
    rw [List.pairwise_cons] at hsorted
    have hstop : a.interval.stop = some b.start := hchain.1
    by_cases hb : b.start ≤ tenor
    · -- The tenor lies beyond `a`, which stops at the start of `b`.
      obtain ⟨e, he, hfilter⟩ := ih hb hchain.2 hlast hsorted.2
      have hcontains : ¬ a.interval.contains tenor = true := by
        rw [Interval.contains_iff, hstop]
        exact fun h => absurd hb (not_le.2 (h.2 b.start rfl))
      have hcount : (b :: rest).countP (·.start.le tenor) = rest.countP (·.start.le tenor) + 1 :=
        List.countP_cons_of_pos hb
      refine ⟨e, ?_, ?_⟩
      · rw [hcount]
        exact he
      · rw [← hfilter]
        exact List.filter_cons_of_neg hcontains
    · -- The tenor lies in `a`, and all further entries start later.
      have hcontains : a.interval.contains tenor = true := by
        rw [Interval.contains_iff, hstop]
        exact ⟨hstart, by simpa using hb⟩
      have hlater : ∀ c ∈ b :: rest, ¬ c.start ≤ tenor := by
        intro c hc
        rcases List.mem_cons.1 hc with rfl | hc
        · exact hb
        · exact fun h => hb (((List.pairwise_cons.1 hsorted.2).1 c hc).le.trans h)
      have hcount : (b :: rest).countP (·.start.le tenor) = 0 := List.countP_eq_zero.2 hlater
      have hrest : (b :: rest).filter (·.interval.contains tenor) = [] := by
        rw [List.filter_eq_nil_iff]
        exact fun c hc h => hlater c hc (Interval.contains_iff.1 h).1
      refine ⟨a, ?_, ?_⟩
      · rw [hcount]
        rfl
      · rw [← hrest]
        exact List.filter_cons_of_pos hcontains

theorem Tiling.exists_cons {es : List (Entry V)} (h : Tiling es) :
    ∃ a rest, es = a :: rest ∧ a.start = Tenor.zero := by
  obtain ⟨a, rest, rfl⟩ := List.exists_cons_of_ne_nil h.ne_nil
  exact ⟨a, rest, rfl, Option.some.inj h.origin⟩

namespace Table

variable {t : Table V}

theorem startsUpTo_eq_countP (h : Tiling t.toList) (tenor : Tenor) :
    t.startsUpTo tenor = t.toList.countP (·.start.le tenor) := by
  refine Search.partitionPoint_eq_countP ?_
  intro i j hj hij hle
  rcases Nat.eq_or_lt_of_le hij with rfl | hlt
  · exact hle
  · have hstart : t.entries[i].start < t.entries[j].start :=
      List.pairwise_iff_getElem.1 h.pairwise_start i j (hlt.trans hj) hj hlt
    exact hstart.le.trans hle

theorem countP_boundaries {a : Entry V} {rest : List (Entry V)} (hes : t.toList = a :: rest)
    (tenor : Tenor) :
    t.boundaries.countP (·.le tenor) = rest.countP (·.start.le tenor) := by
  rw [boundaries, hes, List.drop_one, List.tail_cons, List.countP_map]
  rfl

/-- The entry of a tenor stands behind as many boundaries as there are up to the tenor. -/
theorem lookupEntry_eq (h : Tiling t.toList) (tenor : Tenor) :
    t.lookupEntry tenor = t.toList[t.boundaries.countP (·.le tenor)]? := by
  obtain ⟨a, rest, hes, horigin⟩ := h.exists_cons
  have hstarts : t.startsUpTo tenor = rest.countP (·.start.le tenor) + 1 := by
    rw [startsUpTo_eq_countP h, hes]
    refine List.countP_cons_of_pos ?_
    rw [horigin]
    exact Tenor.zero_le tenor
  rw [lookupEntry, hstarts, countP_boundaries hes, toList, Array.getElem?_toList]

/-- The look-up finds the one entry whose interval contains a tenor. -/
theorem exists_lookupEntry (h : Tiling t.toList) (tenor : Tenor) :
    ∃ e, t.lookupEntry tenor = some e ∧
      t.toList.filter (·.interval.contains tenor) = [e] := by
  obtain ⟨a, rest, hes, horigin⟩ := h.exists_cons
  rw [lookupEntry_eq h, countP_boundaries hes]
  rw [hes] at h ⊢
  have hstart : a.start ≤ tenor := horigin ▸ Tenor.zero_le tenor
  exact exists_filter_contains hstart h.contiguous h.unbounded h.pairwise_start

theorem contains_of_filter {tenor : Tenor} {e : Entry V}
    (h : t.toList.filter (·.interval.contains tenor) = [e]) :
    e ∈ t.toList ∧ e.interval.contains tenor = true := by
  have hmem : e ∈ t.toList.filter (·.interval.contains tenor) := by
    rw [h]
    exact List.mem_singleton_self e
  exact List.mem_filter.1 hmem

theorem lookupEntry_eq_some_iff (h : Tiling t.toList) {tenor : Tenor} {e : Entry V} :
    t.lookupEntry tenor = some e ↔ e ∈ t.toList ∧ e.interval.contains tenor = true := by
  obtain ⟨found, hfound, hfilter⟩ := exists_lookupEntry h tenor
  have hmem : e ∈ t.toList.filter (·.interval.contains tenor) ↔
      e ∈ t.toList ∧ e.interval.contains tenor = true := List.mem_filter
  rw [hfilter, List.mem_singleton] at hmem
  rw [hfound, Option.some.injEq, ← hmem]
  exact eq_comm

end Table

/-! ## Rows of the command line -/

namespace Command

/-- The row of a tenor shows the tenor with the entry that it falls in. -/
structure LookupRow.Shows (row : LookupRow) (v : VolatilityTable) (tenor : Tenor) : Prop where
  tenor_eq : row.tenor = tenor
  contains : row.interval.contains tenor = true
  entry : ∃ e ∈ v.table.toList, row.interval = e.interval ∧ row.volatility = e.value

variable {v : VolatilityTable}

theorem exists_lookupRow (h : Tiling v.table.toList) (tenor : Tenor) :
    ∃ row, lookupRow v tenor = .ok row ∧ row.Shows v tenor := by
  obtain ⟨e, he, hfilter⟩ := Table.exists_lookupEntry h tenor
  obtain ⟨hmem, hcontains⟩ := Table.contains_of_filter hfilter
  refine ⟨⟨tenor, e.interval, e.value⟩, ?_, rfl, hcontains, e, hmem, rfl, rfl⟩
  rw [lookupRow, he]

theorem exists_lookupRows (h : Tiling v.table.toList) (tenors : List Tenor) :
    ∃ rows, lookupRows v tenors = .ok rows ∧
      List.Forall₂ (fun tenor row => row.Shows v tenor) tenors rows := by
  induction tenors with
  | nil => exact ⟨[], rfl, .nil⟩
  | cons tenor rest ih =>
    obtain ⟨row, hrow, hshows⟩ := exists_lookupRow h tenor
    obtain ⟨rows, hrows, hall⟩ := ih
    refine ⟨row :: rows, ?_, .cons hshows hall⟩
    rw [lookupRows, hrow, hrows]

theorem lookUp_ne_noEntry (files : Files) (p : Presentation) (path : String) (tenors : List Tenor)
    (tenor : Tenor) : lookUp files p path tenors ≠ .error (.noEntry tenor) := by
  rw [lookUp]
  split
  · simp
  next v hv =>
    obtain ⟨rows, hrows, -⟩ := exists_lookupRows (Run.source (.volatilityFile hv)).sound tenors
    simp [hrows]

end Command

/-- In the tables of runs every tenor lies in exactly one entry, and looking it up gives this entry,
as a scan from the front would. So volatilities are found at all tenors, and the command line shows
one row for each tenor that it is asked for. -/
theorem lookup_of_run :
    (∀ {V : Type} {t : Table V}, Run (.table t) → ∀ tenor, ∃ e,
      t.lookupEntry tenor = some e ∧ t.lookup tenor = some e.value ∧
      e.interval.contains tenor = true ∧ t.toList.filter (·.interval.contains tenor) = [e] ∧
      t.toList.find? (·.interval.contains tenor) = t.lookupEntry tenor) ∧
    (∀ {v : VolatilityTable}, Run (.volatilities v) →
      (∀ tenor, ∃ x, v.volatilityAt tenor = some x) ∧
      ∀ tenors, ∃ rows, Command.lookupRows v tenors = .ok rows ∧
        List.Forall₂ (fun tenor row => row.Shows v tenor) tenors rows) ∧
    ∀ files p path tenors tenor, Command.lookUp files p path tenors ≠ .error (.noEntry tenor) := by
  refine ⟨?_, ?_, Command.lookUp_ne_noEntry⟩
  · intro V t hrun tenor
    obtain ⟨e, he, hfilter⟩ := Table.exists_lookupEntry hrun.sound tenor
    refine ⟨e, he, ?_, (Table.contains_of_filter hfilter).2, hfilter, ?_⟩
    · rw [Table.lookup, he]
      rfl
    · rw [← List.head?_filter, hfilter, he]
      rfl
  · intro v hrun
    refine ⟨fun tenor => ?_, Command.exists_lookupRows hrun.sound⟩
    obtain ⟨e, he, -⟩ := Table.exists_lookupEntry hrun.sound tenor
    refine ⟨e.value, ?_⟩
    rw [VolatilityTable.volatilityAt, Table.lookup, he]
    rfl

/-- Tables of two entries that `1Y` parts. It lies in the second one and `12M`, of the same length, in the first
one, and the command line shows a row for either. -/
theorem lookup_of_run_year : ∃ (t : Table Nat) (v : VolatilityTable),
    Run (.table t) ∧ t.toList.map Entry.start = [.zero, .years 1] ∧
    t.lookup (.months 12) = some 1 ∧ t.lookup (.years 1) = some 2 ∧
    Run (.volatilities v) ∧ (∃ x, v.volatilityAt (.months 12) = some x) ∧
    ∃ rows, Command.lookupRows v [.months 12, .years 1] = .ok rows ∧
      List.Forall₂ (fun tenor row => row.Shows v tenor) [.months 12, .years 1] rows := by
  have htiling : ∀ {V : Type} (low high : V), Tiling (Table.toList ⟨#[
      ⟨⟨.zero, some (.years 1), by decide⟩, low⟩, ⟨.unbounded (.years 1), high⟩]⟩) :=
    fun _ _ => ⟨rfl, List.isChain_pair.2 rfl, rfl⟩
  have hrun := Run.of_tiling (htiling 1 2)
  have hvolatilities := Run.step (.of_tiling (htiling 0.0125 0.5)) (.ofTable _)
  obtain ⟨hfound, hshown, -⟩ := lookup_of_run
  obtain ⟨e, -, hmonths, -, hfirst, -⟩ := hfound hrun (.months 12)
  obtain ⟨f, -, hyear, -, hsecond, -⟩ := hfound hrun (.years 1)
  have he : [e].map Entry.value = [1] := by
    rw [← hfirst]
    rfl
  have hf : [f].map Entry.value = [2] := by
    rw [← hsecond]
    rfl
  rw [(List.cons.inj he).1] at hmonths
  rw [(List.cons.inj hf).1] at hyear
  obtain ⟨hvalues, hrows⟩ := hshown hvolatilities
  exact ⟨_, _, hrun, rfl, hmonths, hyear, hvolatilities, hvalues _, hrows _⟩

end TermStructure
