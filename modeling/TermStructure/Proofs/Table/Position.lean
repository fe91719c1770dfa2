import TermStructure.Proofs.Table.Boundaries

/-!
# Positions

The position of a tenor in a table is that of the entry which looking it up finds. It counts the boundaries up
to the tenor (`Table.standsAt_iff`), so from one tenor to a later one it grows by the boundaries between them
(`Table.position_add`). Boundaries differ in length, so at most one of them lies between tenors of one length
(`Tiling.boundariesBetween_le_one`), and without one these tenors stand together.
-/

namespace TermStructure

universe u

variable {V : Type u} {t : Table V} {a b tenor : Tenor} {i j : Nat}

namespace Table

/-- The entry that looking up a tenor finds stands at a position of the table. -/
def StandsAt (t : Table V) (tenor : Tenor) (i : Nat) : Prop :=
  ∃ e, t.lookupEntry tenor = some e ∧ t.get? i = some e

/-- The number of boundaries after one tenor and up to another. -/
def boundariesBetween (t : Table V) (a b : Tenor) : Nat :=
  t.boundaries.countP fun s => a.lt s && s.le b

theorem get?_eq (t : Table V) (i : Nat) : t.get? i = t.toList[i]? :=
  Array.getElem?_toList.symm

/-- A tenor stands behind as many entries as there are boundaries up to it. -/
theorem standsAt_iff (h : Tiling t.toList) :
    t.StandsAt tenor i ↔ i = t.boundaries.countP (·.le tenor) := by
  have hnodup : t.toList.Nodup := (nodup_starts h.pairwise_start).of_map _
  obtain ⟨e, he, -⟩ := exists_lookupEntry h tenor
  have hposition := he
  rw [lookupEntry_eq h] at hposition
  constructor
  · rintro ⟨f, hf, hi⟩
    obtain rfl := Option.some.inj (he.symm.trans hf)
    rw [get?_eq] at hi
    obtain ⟨hlt, -⟩ := List.getElem?_eq_some_iff.1 hi
    exact (List.getElem?_inj hlt hnodup).1 (hi.trans hposition.symm)
  · rintro rfl
    exact ⟨e, he, (t.get?_eq _).trans hposition⟩

theorem existsUnique_standsAt (h : Tiling t.toList) (tenor : Tenor) : ∃! i, t.StandsAt tenor i :=
  ⟨_, (standsAt_iff h).2 rfl, fun _ hi => (standsAt_iff h).1 hi⟩

theorem lookup_eq_of_standsAt (ha : t.StandsAt a i) (hb : t.StandsAt b i) : t.lookup a = t.lookup b := by
  obtain ⟨e, he, hi⟩ := ha
  obtain ⟨f, hf, hi'⟩ := hb
  rw [lookup, lookup, he, hf, ← hi, ← hi']

/-- The boundaries up to the later one of two tenors are those up to the earlier one and those between. -/
theorem countP_boundaries_add (t : Table V) (hab : a ≤ b) :
    t.boundaries.countP (·.le b) = t.boundaries.countP (·.le a) + t.boundariesBetween a b := by
  rw [List.countP_eq_countP_filter_add t.boundaries (·.le b) (·.le a), List.countP_filter,
    List.countP_filter, boundariesBetween]
  congr 1
  · refine List.countP_congr fun s _ => ?_
    simp only [Bool.and_eq_true, Tenor.le_eq_true]
    exact ⟨fun h => h.2, fun h => ⟨h.trans hab, h⟩⟩
  · refine List.countP_congr fun s _ => ?_
    simp only [Bool.and_eq_true, Bool.not_eq_true', Bool.eq_false_iff, ne_eq, Tenor.le_eq_true,
      Tenor.lt_eq_true, not_le]
    exact and_comm

theorem position_add (h : Tiling t.toList) (hab : a ≤ b) (ha : t.StandsAt a i) (hb : t.StandsAt b j) :
    j = i + t.boundariesBetween a b := by
  rw [(standsAt_iff h).1 ha, (standsAt_iff h).1 hb, countP_boundaries_add t hab]

end Table

/-! ## Tenors of one length -/

/-- Boundaries grow in length, so no two of them lie between tenors of one length. -/
theorem Tiling.boundariesBetween_le_one (h : Tiling t.toList) (hlength : a.length = b.length) :
    t.boundariesBetween a b ≤ 1 := by
  have hnodup : (t.boundaries.map Tenor.length).Nodup := by
    rw [List.nodup_iff_pairwise_ne, List.pairwise_map]
    exact h.cuts.increasing.imp fun hlonger => (Tenor.longerThan_eq_true.1 hlonger).ne
  calc t.boundariesBetween a b
      ≤ t.boundaries.countP fun s => s.length == a.length := by
        refine List.countP_mono_left fun s _ hs => beq_iff_eq.2 ?_
        rw [Bool.and_eq_true, Tenor.lt_eq_true, Tenor.le_eq_true] at hs
        exact Tenor.length_eq_of_between hlength hs.1 hs.2
    _ = (t.boundaries.map Tenor.length).count a.length := by
        rw [List.count_eq_countP, List.countP_map]
        rfl
    _ ≤ 1 := List.nodup_iff_count_le_one.1 hnodup a.length

/-- A boundary lies between tenors of one length if it has this length and a unit between theirs. -/
theorem Table.boundariesBetween_ne_zero_iff (t : Table V) (hlength : a.length = b.length) :
    t.boundariesBetween a b ≠ 0 ↔ ∃ s ∈ t.boundaries, s.sameLength a = true ∧
      a.unit.rank < s.unit.rank ∧ s.unit.rank ≤ b.unit.rank := by
  rw [← Nat.pos_iff_ne_zero, boundariesBetween, List.countP_pos_iff]
  refine exists_congr fun s => and_congr_right fun _ => ?_
  rw [Bool.and_eq_true, Tenor.lt_eq_true, Tenor.le_eq_true, Tenor.sameLength_eq_true]
  constructor
  · rintro ⟨has, hsb⟩
    have hs := Tenor.length_eq_of_between hlength has hsb
    exact ⟨hs, (Tenor.lt_iff_rank hs.symm).1 has, (Tenor.le_iff_rank (hs.trans hlength)).1 hsb⟩
  · rintro ⟨hs, hlow, hhigh⟩
    exact ⟨(Tenor.lt_iff_rank hs.symm).2 hlow, (Tenor.le_iff_rank (hs.trans hlength)).2 hhigh⟩

/-- A tenor that is as long as no boundary stands behind the shorter ones. -/
theorem Table.standsAt_of_length (h : Tiling t.toList) (ha : ∀ s ∈ t.boundaries, ¬ s.sameLength a = true) :
    t.StandsAt a (t.boundaries.countP fun s => a.longerThan s) := by
  rw [standsAt_iff h]
  refine List.countP_congr fun s hs => ?_
  have hne := ha s hs
  rw [Tenor.sameLength_eq_true] at hne
  rw [Tenor.longerThan_eq_true, Tenor.le_eq_true, Tenor.le_iff]
  omega

/-- From one tenor to a later one the position grows by the number of boundaries between them. For tenors of
one length it grows by one at most, and it does so if a boundary of this length has a unit between theirs.
Tenors that are as long as no boundary are found by their lengths alone. -/
theorem positions_of_run {V : Type} {t : Table V} (hrun : Run (.table t)) :
    (∀ tenor, ∃! i, t.StandsAt tenor i) ∧
    (∀ a b i j, a ≤ b → t.StandsAt a i → t.StandsAt b j →
      j = i + t.boundaries.countP (fun s => a.lt s && s.le b) ∧
      (a.sameLength b = true → j ≤ i + 1 ∧
        (j ≠ i ↔ ∃ s ∈ t.boundaries, s.sameLength a = true ∧
          a.unit.rank < s.unit.rank ∧ s.unit.rank ≤ b.unit.rank))) ∧
    ∀ a, (∀ s ∈ t.boundaries, ¬ s.sameLength a = true) →
      t.StandsAt a (t.boundaries.countP fun s => a.longerThan s) ∧
      ∀ b, b.sameLength a = true → t.lookup b = t.lookup a := by
  have htiling : Tiling t.toList := hrun.sound
  refine ⟨Table.existsUnique_standsAt htiling, ?_, ?_⟩
  · intro a b i j hab ha hb
    have hj := Table.position_add htiling hab ha hb
    refine ⟨hj, fun hsame => ?_⟩
    rw [Tenor.sameLength_eq_true] at hsame
    have hle := htiling.boundariesBetween_le_one hsame
    rw [← t.boundariesBetween_ne_zero_iff hsame]
    omega
  · intro a ha
    have hstands := Table.standsAt_of_length htiling ha
    refine ⟨hstands, fun b hb => ?_⟩
    rw [Tenor.sameLength_eq_true] at hb
    have hb' : ∀ s ∈ t.boundaries, ¬ s.sameLength b = true := by
      simpa only [Tenor.sameLength_eq_true, hb] using ha
    have hstands' := Table.standsAt_of_length htiling hb'
    simp only [Tenor.longerThan, hb] at hstands hstands'
    exact Table.lookup_eq_of_standsAt hstands' hstands

/-- The boundary `1Y` parts `12M` from `1Y`, while `24M` and `2Y` stand together. -/
theorem positions_of_run_year : ∃ t : Table Nat,
    Run (.table t) ∧ t.boundaries = [.years 1, .years 5] ∧
    Tenor.months 12 ≤ .years 1 ∧ t.StandsAt (.months 12) 0 ∧ t.StandsAt (.years 1) 1 ∧
    (Tenor.months 12).sameLength (.years 1) = true ∧
    (∃ s ∈ t.boundaries, s.sameLength (.months 12) = true ∧
      TenorUnit.months.rank < s.unit.rank ∧ s.unit.rank ≤ TenorUnit.years.rank) ∧
    (∀ s ∈ t.boundaries, ¬ s.sameLength (.months 24) = true) ∧
    t.lookup (.years 2) = t.lookup (.months 24) := by
  have hcuts : Cuts [.years 1, .years 5] [1, 2, 3] := ⟨by decide, by decide, rfl⟩
  obtain ⟨t, htiling, hboundaries, -, -⟩ := hcuts.exists_table
  have hrun := Run.of_tiling htiling
  have hle : Tenor.months 12 ≤ .years 1 := by decide
  have hmonths : t.StandsAt (.months 12) 0 := by
    rw [Table.standsAt_iff htiling, hboundaries]
    decide
  have hyear : t.StandsAt (.years 1) 1 := by
    rw [Table.standsAt_iff htiling, hboundaries]
    decide
  have hsame : (Tenor.months 12).sameLength (.years 1) = true := by decide
  have hother : ∀ s ∈ t.boundaries, ¬ s.sameLength (.months 24) = true := by
    rw [hboundaries]
    decide
  obtain ⟨-, hbetween, halone⟩ := positions_of_run hrun
  obtain ⟨-, hiff⟩ := (hbetween _ _ 0 1 hle hmonths hyear).2 hsame
  exact ⟨t, hrun, hboundaries, hle, hmonths, hyear, hsame, hiff.1 Nat.one_ne_zero, hother,
    (halone _ hother).2 (.years 2) (by decide)⟩

end TermStructure
