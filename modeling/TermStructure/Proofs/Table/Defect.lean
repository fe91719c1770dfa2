import Mathlib.Order.Bounds.Basic
import TermStructure.Proofs.Table.Tiling

/-!
# The first defect of entries

`FirstDefect es e` says in terms of the entries alone, in no order, why they do not tile the tenors:
there are none; or two start together; or none starts at `0D`; or one does not stop where the next
one starts; or the last one stops. Each kind goes before the kinds after it, and of several defects
of one kind the first along the tenors counts.

The validation sorts and then compares neighbours. Sorting keeps all that `FirstDefect` speaks of
(`FirstDefect.perm`), and among sorted entries the neighbours show the first defect of each kind
(`sharedStart?_isLeast`, `firstGap?_first`). So `ofEntries` names the first defect whatever the
order of the entries (`ofEntries_eq_error_iff`).
-/

namespace TermStructure

universe u

variable {V : Type u} {es fs : List (Entry V)}

/-- Two or more entries start at a tenor. -/
def StartsTwice (es : List (Entry V)) (t : Tenor) : Prop :=
  2 ≤ (es.map Entry.start).count t

/-- No two entries start together. -/
def StartsDistinct (es : List (Entry V)) : Prop :=
  ∀ t, ¬ StartsTwice es t

/-- Some entry starts at `0D`. -/
def HasOrigin (es : List (Entry V)) : Prop :=
  Tenor.zero ∈ es.map Entry.start

/-- `b` is the entry that starts next after `a`. -/
structure StartsNext (es : List (Entry V)) (a b : Entry V) : Prop where
  left : a ∈ es
  right : b ∈ es
  lt : a.start < b.start
  between : ∀ c ∈ es, c.start ≤ a.start ∨ b.start ≤ c.start

/-- `b` starts next after `a`, but not where `a` stops. -/
def Gap (es : List (Entry V)) (a b : Entry V) : Prop :=
  StartsNext es a b ∧ a.stop ≠ some b.start

/-- `e` is the entry that starts last. -/
def StartsLast (es : List (Entry V)) (e : Entry V) : Prop :=
  e ∈ es ∧ ∀ c ∈ es, c.start ≤ e.start

/-- The first defect of entries along the tenors, the kinds of defects in a fixed order. -/
inductive FirstDefect (es : List (Entry V)) : StructureError → Prop where
  | empty : es = [] → FirstDefect es .emptyTable
  | duplicate {t : Tenor} : IsLeast {t | StartsTwice es t} t → FirstDefect es (.duplicateStart t)
  | origin {t : Tenor} : StartsDistinct es → ¬ HasOrigin es →
    IsLeast {t | t ∈ es.map Entry.start} t → FirstDefect es (.missingOrigin t)
  | gap {a b : Entry V} : StartsDistinct es → HasOrigin es → Gap es a b →
    (∀ c d, Gap es c d → b.start ≤ d.start) → FirstDefect es (.gapOrOverlap a.stop b.start)
  | unterminated {e : Entry V} {t : Tenor} : StartsDistinct es → HasOrigin es →
    (∀ a b, ¬ Gap es a b) → StartsLast es e → e.stop = some t →
    FirstDefect es (.unterminatedTable t)

/-! ## Order does not matter -/

theorem StartsTwice.perm (h : es.Perm fs) {t : Tenor} (hs : StartsTwice es t) :
    StartsTwice fs t := by
  rw [StartsTwice, ← (h.map Entry.start).count_eq t]
  exact hs

theorem StartsDistinct.perm (h : es.Perm fs) (hs : StartsDistinct es) : StartsDistinct fs :=
  fun t htwice => hs t (htwice.perm h.symm)

theorem HasOrigin.perm (h : es.Perm fs) (ho : HasOrigin es) : HasOrigin fs :=
  (h.map Entry.start).mem_iff.1 ho

theorem StartsNext.perm (h : es.Perm fs) {a b : Entry V} (hn : StartsNext es a b) :
    StartsNext fs a b where
  left := h.mem_iff.1 hn.left
  right := h.mem_iff.1 hn.right
  lt := hn.lt
  between c hc := hn.between c (h.mem_iff.2 hc)

theorem Gap.perm (h : es.Perm fs) {a b : Entry V} (hg : Gap es a b) : Gap fs a b :=
  ⟨hg.1.perm h, hg.2⟩

theorem StartsLast.perm (h : es.Perm fs) {e : Entry V} (hl : StartsLast es e) : StartsLast fs e :=
  ⟨h.mem_iff.1 hl.1, fun c hc => hl.2 c (h.mem_iff.2 hc)⟩

theorem FirstDefect.perm (h : es.Perm fs) {e : StructureError} (hd : FirstDefect es e) :
    FirstDefect fs e := by
  cases hd with
  | empty hnil =>
    subst hnil
    exact .empty (List.nil_perm.1 h)
  | duplicate hleast =>
    exact .duplicate ⟨hleast.1.perm h, fun u hu => hleast.2 (hu.perm h.symm)⟩
  | origin hdistinct horigin hleast =>
    refine .origin (hdistinct.perm h) (fun ho => horigin (ho.perm h.symm)) ⟨?_, ?_⟩
    · exact (h.map Entry.start).mem_iff.1 hleast.1
    · exact fun u hu => hleast.2 ((h.map Entry.start).mem_iff.2 hu)
  | gap hdistinct horigin hgap hfirst =>
    exact .gap (hdistinct.perm h) (horigin.perm h) (hgap.perm h)
      fun c d hcd => hfirst c d (hcd.perm h.symm)
  | unterminated hdistinct horigin hgap hlast hstop =>
    exact .unterminated (hdistinct.perm h) (horigin.perm h)
      (fun a b hab => hgap a b (hab.perm h.symm)) (hlast.perm h) hstop

/-! ## A list has one first defect -/

theorem startsDistinct_iff_nodup : StartsDistinct es ↔ (es.map Entry.start).Nodup := by
  rw [List.nodup_iff_count_le_one]
  refine forall_congr' fun t => ?_
  rw [StartsTwice]
  omega

theorem StartsDistinct.eq_of_start_eq (hs : StartsDistinct es) {a b : Entry V} (ha : a ∈ es)
    (hb : b ∈ es) (heq : a.start = b.start) : a = b :=
  List.inj_on_of_nodup_map (startsDistinct_iff_nodup.1 hs) ha hb heq

theorem not_startsTwice_nil (t : Tenor) : ¬ StartsTwice ([] : List (Entry V)) t := by
  simp [StartsTwice]

theorem not_hasOrigin_nil : ¬ HasOrigin ([] : List (Entry V)) := by
  simp [HasOrigin]

/-- With distinct starts, an entry is told by the one that starts next. -/
theorem StartsNext.left_unique (hs : StartsDistinct es) {a b c d : Entry V}
    (hab : StartsNext es a b) (hcd : StartsNext es c d) (heq : b.start = d.start) : a = c := by
  refine hs.eq_of_start_eq hab.left hcd.left (le_antisymm ?_ ?_)
  · rcases hcd.between a hab.left with h | h
    · exact h
    · exact absurd hab.lt (not_lt.2 (heq ▸ h))
  · rcases hab.between c hcd.left with h | h
    · exact h
    · exact absurd hcd.lt (not_lt.2 (heq ▸ h))

theorem StartsLast.unique (hs : StartsDistinct es) {a b : Entry V} (ha : StartsLast es a)
    (hb : StartsLast es b) : a = b :=
  hs.eq_of_start_eq ha.1 hb.1 (le_antisymm (hb.2 a ha.1) (ha.2 b hb.1))

theorem FirstDefect.unique {d e : StructureError} (hd : FirstDefect es d) (he : FirstDefect es e) :
    d = e := by
  cases hd with
  | empty hnil =>
    subst hnil
    cases he with
    | empty => rfl
    | duplicate hleast => exact absurd hleast.1 (not_startsTwice_nil _)
    | origin _ _ hleast => exact absurd hleast.1 List.not_mem_nil
    | gap _ horigin => exact absurd horigin not_hasOrigin_nil
    | unterminated _ horigin => exact absurd horigin not_hasOrigin_nil
  | duplicate hleast =>
    cases he with
    | empty hnil =>
      subst hnil
      exact absurd hleast.1 (not_startsTwice_nil _)
    | duplicate hleast' => rw [hleast.unique hleast']
    | origin hdistinct => exact absurd hleast.1 (hdistinct _)
    | gap hdistinct => exact absurd hleast.1 (hdistinct _)
    | unterminated hdistinct => exact absurd hleast.1 (hdistinct _)
  | origin hdistinct horigin hleast =>
    cases he with
    | empty hnil =>
      subst hnil
      exact absurd hleast.1 List.not_mem_nil
    | duplicate hleast' => exact absurd hleast'.1 (hdistinct _)
    | origin _ _ hleast' => rw [hleast.unique hleast']
    | gap _ horigin' => exact absurd horigin' horigin
    | unterminated _ horigin' => exact absurd horigin' horigin
  | gap hdistinct horigin hgap hfirst =>
    cases he with
    | empty hnil =>
      subst hnil
      exact absurd horigin not_hasOrigin_nil
    | duplicate hleast => exact absurd hleast.1 (hdistinct _)
    | origin _ horigin' => exact absurd horigin horigin'
    | gap _ _ hgap' hfirst' =>
      have hstart := le_antisymm (hfirst _ _ hgap') (hfirst' _ _ hgap)
      rw [hgap.1.left_unique hdistinct hgap'.1 hstart, hstart]
    | unterminated _ _ hnone => exact absurd hgap (hnone _ _)
  | unterminated hdistinct horigin hnone hlast hstop =>
    cases he with
    | empty hnil =>
      subst hnil
      exact absurd horigin not_hasOrigin_nil
    | duplicate hleast => exact absurd hleast.1 (hdistinct _)
    | origin _ horigin' => exact absurd horigin horigin'
    | gap _ _ hgap => exact absurd hgap (hnone _ _)
    | unterminated _ _ _ hlast' hstop' =>
      rw [hlast.unique hdistinct hlast', hstop'] at hstop
      rw [Option.some.inj hstop]

/-! ## Neighbours of sorted entries -/

section Sorted

variable {a b : Entry V} {rest : List (Entry V)}

theorem start_le_of_sorted (hs : (a :: es).Pairwise fun a b => a.start ≤ b.start) :
    ∀ c ∈ a :: es, a.start ≤ c.start := by
  intro c hc
  rcases List.mem_cons.1 hc with rfl | hc
  · exact le_refl _
  · exact (List.pairwise_cons.1 hs).1 c hc

theorem lt_of_sorted_of_ne (hs : (a :: b :: rest).Pairwise fun a b => a.start ≤ b.start)
    (hne : a.start ≠ b.start) : ∀ c ∈ b :: rest, a.start < c.start := by
  rw [List.pairwise_cons] at hs
  have hab : a.start < b.start := lt_of_le_of_ne (hs.1 b List.mem_cons_self) hne
  exact fun c hc => hab.trans_le (start_le_of_sorted hs.2 c hc)

theorem startsTwice_cons_iff (hlt : ∀ c ∈ es, a.start < c.start) {t : Tenor} :
    StartsTwice (a :: es) t ↔ StartsTwice es t := by
  rw [StartsTwice, StartsTwice, List.map_cons]
  by_cases h : a.start = t
  · have hcount : (es.map Entry.start).count t = 0 := by
      rw [List.count_eq_zero]
      intro hmem
      obtain ⟨c, hc, hstart⟩ := List.mem_map.1 hmem
      exact absurd (h.trans hstart.symm) (hlt c hc).ne
    rw [h, List.count_cons_self, hcount]
    omega
  · rw [List.count_cons_of_ne h]

theorem sharedStart?_isLeast (hs : es.Pairwise fun a b => a.start ≤ b.start) {t : Tenor}
    (h : Table.sharedStart? es = some t) : IsLeast {t | StartsTwice es t} t := by
  fun_induction Table.sharedStart? es with
  | case1 a b rest heq =>
    obtain rfl := Option.some.inj h
    have htwice : StartsTwice (a :: b :: rest) b.start := by
      simp only [StartsTwice, List.map_cons, heq, List.count_cons_self]
      omega
    refine ⟨htwice, ?_⟩
    intro u hu
    have hpos : 0 < ((a :: b :: rest).map Entry.start).count u := Nat.lt_of_lt_of_le Nat.two_pos hu
    obtain ⟨c, hc, rfl⟩ := List.mem_map.1 (List.count_pos_iff.1 hpos)
    rw [← heq]
    exact start_le_of_sorted hs c hc
  | case2 a b rest hne ih =>
    have hiff : ∀ u, StartsTwice (a :: b :: rest) u ↔ StartsTwice (b :: rest) u :=
      fun u => startsTwice_cons_iff (lt_of_sorted_of_ne hs hne)
    obtain ⟨htwice, hleast⟩ := ih (List.pairwise_cons.1 hs).2 h
    exact ⟨(hiff t).2 htwice, fun u hu => hleast ((hiff u).1 hu)⟩
  | case3 => simp at h

theorem pairwise_lt_of_sharedStart? (hs : es.Pairwise fun a b => a.start ≤ b.start)
    (h : Table.sharedStart? es = none) : es.Pairwise fun a b => a.start < b.start := by
  fun_induction Table.sharedStart? es with
  | case1 => simp at h
  | case2 a b rest hne ih =>
    exact List.pairwise_cons.2 ⟨lt_of_sorted_of_ne hs hne, ih (List.pairwise_cons.1 hs).2 h⟩
  | case3 es hshort =>
    rcases es with _ | ⟨a, _ | ⟨b, rest⟩⟩
    · exact .nil
    · exact List.pairwise_singleton _ a
    · exact absurd rfl (hshort a b rest)

theorem startsNext_cons_cons_iff (hs : (a :: b :: rest).Pairwise fun a b => a.start < b.start)
    {c d : Entry V} :
    StartsNext (a :: b :: rest) c d ↔ c = a ∧ d = b ∨ StartsNext (b :: rest) c d := by
  obtain ⟨ha, htail⟩ := List.pairwise_cons.1 hs
  have hb := (List.pairwise_cons.1 htail).1
  constructor
  · intro h
    have hd : d ∈ b :: rest := by
      rcases List.mem_cons.1 h.right with rfl | hd
      · rcases List.mem_cons.1 h.left with rfl | hc
        · exact absurd h.lt (lt_irrefl _)
        · exact absurd h.lt (ha c hc).asymm
      · exact hd
    rcases List.mem_cons.1 h.left with rfl | hc
    · left
      refine ⟨rfl, ?_⟩
      rcases List.mem_cons.1 hd with rfl | hd
      · rfl
      · rcases h.between b (by simp) with hle | hle
        · exact absurd (ha b List.mem_cons_self) (not_lt.2 hle)
        · exact absurd (hb d hd) (not_lt.2 hle)
    · exact Or.inr ⟨hc, hd, h.lt, fun e he => h.between e (List.mem_cons_of_mem a he)⟩
  · rintro (⟨rfl, rfl⟩ | h)
    · refine ⟨by simp, by simp, ha d List.mem_cons_self, ?_⟩
      intro e he
      rcases List.mem_cons.1 he with rfl | he
      · exact Or.inl (le_refl _)
      · rcases List.mem_cons.1 he with rfl | he
        · exact Or.inr (le_refl _)
        · exact Or.inr (hb e he).le
    · refine ⟨List.mem_cons_of_mem a h.left, List.mem_cons_of_mem a h.right, h.lt, ?_⟩
      intro e he
      rcases List.mem_cons.1 he with rfl | he
      · exact Or.inl (ha c h.left).le
      · exact h.between e he

theorem not_startsNext_of_short (hshort : ∀ a b rest, es = a :: b :: rest → False) (c d : Entry V) :
    ¬ StartsNext es c d := by
  intro h
  rcases es with _ | ⟨a, _ | ⟨b, rest⟩⟩
  · exact absurd h.left List.not_mem_nil
  · obtain rfl := List.mem_singleton.1 h.left
    obtain rfl := List.mem_singleton.1 h.right
    exact absurd h.lt (lt_irrefl _)
  · exact hshort a b rest rfl

theorem not_gap_of_firstGap? (hs : es.Pairwise fun a b => a.start < b.start)
    (h : Table.firstGap? es = none) (c d : Entry V) : ¬ Gap es c d := by
  fun_induction Table.firstGap? es with
  | case1 a b rest heq ih =>
    rintro ⟨hnext, hgap⟩
    rcases (startsNext_cons_cons_iff hs).1 hnext with ⟨rfl, rfl⟩ | hnext
    · exact hgap heq
    · exact ih (List.pairwise_cons.1 hs).2 h ⟨hnext, hgap⟩
  | case2 => simp at h
  | case3 es hshort => exact fun hgap => not_startsNext_of_short hshort c d hgap.1

theorem firstGap?_first (hs : es.Pairwise fun a b => a.start < b.start) {stop : Option Tenor}
    {start : Tenor} (h : Table.firstGap? es = some (stop, start)) :
    ∃ a b, Gap es a b ∧ a.stop = stop ∧ b.start = start ∧
      ∀ c d, Gap es c d → b.start ≤ d.start := by
  fun_induction Table.firstGap? es with
  | case1 a b rest heq ih =>
    obtain ⟨c, d, hgap, hstop, hstart, hfirst⟩ := ih (List.pairwise_cons.1 hs).2 h
    refine ⟨c, d, ⟨(startsNext_cons_cons_iff hs).2 (Or.inr hgap.1), hgap.2⟩, hstop, hstart, ?_⟩
    rintro e f ⟨hnext, hef⟩
    rcases (startsNext_cons_cons_iff hs).1 hnext with ⟨rfl, rfl⟩ | hnext
    · exact absurd heq hef
    · exact hfirst e f ⟨hnext, hef⟩
  | case2 a b rest hne =>
    obtain ⟨rfl, rfl⟩ := Prod.mk.inj (Option.some.inj h)
    refine ⟨a, b, ⟨(startsNext_cons_cons_iff hs).2 (Or.inl ⟨rfl, rfl⟩), hne⟩, rfl, rfl, ?_⟩
    rintro e f ⟨hnext, -⟩
    rcases (startsNext_cons_cons_iff hs).1 hnext with ⟨-, rfl⟩ | hnext
    · exact le_refl _
    · rcases List.mem_cons.1 hnext.right with rfl | hf
      · exact le_refl _
      · exact ((List.pairwise_cons.1 (List.pairwise_cons.1 hs).2).1 f hf).le
  | case3 => simp at h

theorem startsLast_getLast (hs : es.Pairwise fun a b => a.start ≤ b.start) {e : Entry V}
    (h : es.getLast? = some e) : StartsLast es e := by
  obtain ⟨front, rfl⟩ := List.getLast?_eq_some_iff.1 h
  refine ⟨by simp, ?_⟩
  intro c hc
  rcases List.mem_append.1 hc with hc | hc
  · exact (List.pairwise_append.1 hs).2.2 c hc e (List.mem_singleton_self e)
  · rw [List.mem_singleton.1 hc]

end Sorted

/-! ## The validation -/

namespace Tiling

theorem startsDistinct (h : Tiling es) : StartsDistinct es :=
  startsDistinct_iff_nodup.2 (Table.nodup_starts h.pairwise_start)

theorem hasOrigin (h : Tiling es) : HasOrigin es := by
  rw [HasOrigin, List.mem_map]
  obtain ⟨e, rest, rfl⟩ := List.exists_cons_of_ne_nil h.ne_nil
  exact ⟨e, List.mem_cons_self, Option.some.inj h.origin⟩

theorem not_gap (h : Tiling es) (a b : Entry V) : ¬ Gap es a b :=
  not_gap_of_firstGap? h.pairwise_start (Table.firstGap?_eq_none_iff.2 h.contiguous) a b

theorem exists_startsLast (h : Tiling es) : ∃ e, StartsLast es e ∧ e.stop = none := by
  have hlast := List.getLast?_eq_some_getLast h.ne_nil
  have hunbounded := h.unbounded
  rw [hlast] at hunbounded
  exact ⟨_, startsLast_getLast (h.pairwise_start.imp le_of_lt) hlast, Option.some.inj hunbounded⟩

theorem not_firstDefect (h : Tiling es) (e : StructureError) : ¬ FirstDefect es e := by
  intro hd
  cases hd with
  | empty hnil => exact h.ne_nil hnil
  | duplicate hleast => exact h.startsDistinct _ hleast.1
  | origin _ horigin => exact horigin h.hasOrigin
  | gap _ _ hgap => exact h.not_gap _ _ hgap
  | unterminated hdistinct _ _ hlast hstop =>
    obtain ⟨f, hlast', hnone⟩ := h.exists_startsLast
    rw [hlast.unique hdistinct hlast', hnone] at hstop
    simp at hstop

end Tiling

namespace Table

theorem firstDefect_of_defect? (hs : es.Pairwise fun a b => a.start ≤ b.start) {e : StructureError}
    (h : defect? es = some e) : FirstDefect es e := by
  cases es with
  | nil =>
    obtain rfl := Option.some.inj h
    exact .empty rfl
  | cons a rest =>
    simp only [defect?] at h
    split at h
    next t hshared =>
      obtain rfl := Option.some.inj h
      exact .duplicate (sharedStart?_isLeast hs hshared)
    next hshared =>
      have hlt := pairwise_lt_of_sharedStart? hs hshared
      have hdistinct := startsDistinct_iff_nodup.2 (nodup_starts hlt)
      have hleast : IsLeast {t | t ∈ (a :: rest).map Entry.start} a.start := by
        refine ⟨List.mem_cons_self, ?_⟩
        intro t ht
        obtain ⟨c, hc, rfl⟩ := List.mem_map.1 ht
        exact start_le_of_sorted hs c hc
      split at h
      next hzero =>
        obtain rfl := Option.some.inj h
        refine .origin hdistinct ?_ hleast
        intro horigin
        exact hzero (le_antisymm (hleast.2 horigin) (Tenor.zero_le _))
      next hzero =>
        have horigin : HasOrigin (a :: rest) := List.mem_cons.2 (Or.inl (not_not.1 hzero).symm)
        split at h
        next stop start hgap =>
          obtain rfl := Option.some.inj h
          obtain ⟨c, d, hcd, rfl, rfl, hfirst⟩ := firstGap?_first hlt hgap
          exact .gap hdistinct horigin hcd hfirst
        next hgap =>
          obtain ⟨t, hstop, rfl⟩ := Option.map_eq_some_iff.1 h
          obtain ⟨f, hlast, hstop⟩ := Option.bind_eq_some_iff.1 hstop
          exact .unterminated hdistinct horigin (not_gap_of_firstGap? hlt hgap)
            (startsLast_getLast hs hlast) hstop

theorem defect?_eq_some_iff (hs : es.Pairwise fun a b => a.start ≤ b.start) {e : StructureError} :
    defect? es = some e ↔ FirstDefect es e := by
  refine ⟨firstDefect_of_defect? hs, fun hd => ?_⟩
  cases h : defect? es with
  | none => exact absurd hd ((defect?_eq_none_iff.1 h).not_firstDefect e)
  | some d => rw [(firstDefect_of_defect? hs h).unique hd]

theorem ofEntries_eq_error_iff {e : StructureError} :
    (ofEntries es : Except StructureError (Table V)) = .error e ↔ FirstDefect es e := by
  have hperm := sortEntries_perm es
  have hiff : FirstDefect es e ↔ FirstDefect (sortEntries es) e :=
    ⟨fun hd => hd.perm hperm.symm, fun hd => hd.perm hperm⟩
  rw [hiff, ← defect?_eq_some_iff (pairwise_sortEntries es), ofEntries]
  split
  next d hd => simp [hd]
  next hd => simp [hd]

theorem exists_firstDefect (es : List (Entry V))
    (h : ∀ ts : List (Entry V), ts.Perm es → ¬ Tiling ts) :
    ∃ e, FirstDefect es e := by
  cases ho : (ofEntries es : Except StructureError (Table V)) with
  | error e => exact ⟨e, ofEntries_eq_error_iff.1 ho⟩
  | ok t =>
    obtain ⟨hperm, htiling⟩ := ofEntries_eq_ok_iff.1 ho
    exact absurd htiling (h t.toList hperm)

theorem ofEntries_perm (h : es.Perm fs) :
    (ofEntries es : Except StructureError (Table V)) = ofEntries fs := by
  cases ho : (ofEntries fs : Except StructureError (Table V)) with
  | error e =>
    exact ofEntries_eq_error_iff.2 ((ofEntries_eq_error_iff.1 ho).perm h.symm)
  | ok t =>
    obtain ⟨hperm, htiling⟩ := ofEntries_eq_ok_iff.1 ho
    exact ofEntries_eq_ok_iff.2 ⟨hperm.trans h.symm, htiling⟩

end Table

/-! ## Which kind of defect is first -/

namespace FirstDefect

theorem exists_duplicate {t : Tenor} (h : StartsTwice es t) :
    ∃ u, FirstDefect es (.duplicateStart u) := by
  obtain ⟨e, hd⟩ := Table.exists_firstDefect es
    fun ts hperm htiling => htiling.startsDistinct.perm hperm t h
  cases hd with
  | empty hnil =>
    subst hnil
    exact absurd h (not_startsTwice_nil t)
  | duplicate hleast => exact ⟨_, .duplicate hleast⟩
  | origin hdistinct | gap hdistinct | unterminated hdistinct => exact absurd h (hdistinct t)

theorem exists_origin (hne : es ≠ []) (hdistinct : StartsDistinct es) (h : ¬ HasOrigin es) :
    ∃ t, FirstDefect es (.missingOrigin t) := by
  obtain ⟨e, hd⟩ := Table.exists_firstDefect es
    fun ts hperm htiling => h (htiling.hasOrigin.perm hperm)
  cases hd with
  | empty hnil => exact absurd hnil hne
  | duplicate hleast => exact absurd hleast.1 (hdistinct _)
  | origin _ _ hleast => exact ⟨_, .origin hdistinct h hleast⟩
  | gap _ horigin | unterminated _ horigin => exact absurd horigin h

theorem exists_gap (hdistinct : StartsDistinct es) (horigin : HasOrigin es) {a b : Entry V}
    (h : Gap es a b) : ∃ stop start, FirstDefect es (.gapOrOverlap stop start) := by
  obtain ⟨e, hd⟩ := Table.exists_firstDefect es
    fun ts hperm htiling => htiling.not_gap a b (h.perm hperm.symm)
  cases hd with
  | empty hnil =>
    subst hnil
    exact absurd horigin not_hasOrigin_nil
  | duplicate hleast => exact absurd hleast.1 (hdistinct _)
  | origin _ hmissing => exact absurd horigin hmissing
  | gap _ _ hgap hfirst => exact ⟨_, _, .gap hdistinct horigin hgap hfirst⟩
  | unterminated _ _ hnone => exact absurd h (hnone a b)

end FirstDefect

/-- An outcome of making a table, told from the entries alone: of which kind it is, and what it
names. -/
structure Diagnosed (es : List (Entry V)) (outcome : Except StructureError (Table V)) : Prop where
  empty : outcome = .error .emptyTable ↔ es = []
  duplicate : (∃ t, outcome = .error (.duplicateStart t)) ↔ ∃ t, StartsTwice es t
  origin : (∃ t, outcome = .error (.missingOrigin t)) ↔
    es ≠ [] ∧ StartsDistinct es ∧ ¬ HasOrigin es
  gap : (∃ stop start, outcome = .error (.gapOrOverlap stop start)) ↔
    StartsDistinct es ∧ HasOrigin es ∧ ∃ a b, Gap es a b
  unterminated : ∀ t, outcome = .error (.unterminatedTable t) ↔
    StartsDistinct es ∧ HasOrigin es ∧ (∀ a b, ¬ Gap es a b) ∧
      ∃ e, StartsLast es e ∧ e.stop = some t
  ok : (∃ t, outcome = .ok t) ↔
    StartsDistinct es ∧ HasOrigin es ∧ (∀ a b, ¬ Gap es a b) ∧
      ∃ e, StartsLast es e ∧ e.stop = none
  names : ∀ e, outcome = .error e ↔ FirstDefect es e

namespace Table

theorem exists_ofEntries_eq_ok_iff (es : List (Entry V)) : (∃ t, ofEntries es = .ok t) ↔
    StartsDistinct es ∧ HasOrigin es ∧ (∀ a b, ¬ Gap es a b) ∧
      ∃ e, StartsLast es e ∧ e.stop = none := by
  constructor
  · rintro ⟨t, ht⟩
    obtain ⟨hperm, h⟩ := ofEntries_eq_ok_iff.1 ht
    obtain ⟨e, hlast, hstop⟩ := h.exists_startsLast
    refine ⟨h.startsDistinct.perm hperm, h.hasOrigin.perm hperm, ?_, e, hlast.perm hperm, hstop⟩
    exact fun a b hgap => h.not_gap a b (hgap.perm hperm.symm)
  · rintro ⟨hdistinct, horigin, hnone, e, hlast, hstop⟩
    cases ho : (ofEntries es : Except StructureError (Table V)) with
    | ok t => exact ⟨t, rfl⟩
    | error d =>
      cases ofEntries_eq_error_iff.1 ho with
      | empty hnil =>
        subst hnil
        exact absurd horigin not_hasOrigin_nil
      | duplicate hleast => exact absurd hleast.1 (hdistinct _)
      | origin _ hmissing => exact absurd horigin hmissing
      | gap _ _ hgap => exact absurd hgap (hnone _ _)
      | unterminated _ _ _ hlast' hstop' =>
        rw [← hlast.unique hdistinct hlast', hstop] at hstop'
        simp at hstop'

theorem diagnosed_ofEntries (es : List (Entry V)) : Diagnosed es (ofEntries es) where
  empty := by
    rw [ofEntries_eq_error_iff]
    refine ⟨fun hd => ?_, .empty⟩
    cases hd with
    | empty hnil => exact hnil
  duplicate := by
    simp only [ofEntries_eq_error_iff]
    refine ⟨?_, fun ⟨t, ht⟩ => FirstDefect.exists_duplicate ht⟩
    rintro ⟨t, hd⟩
    cases hd with
    | duplicate hleast => exact ⟨t, hleast.1⟩
  origin := by
    simp only [ofEntries_eq_error_iff]
    refine ⟨?_, fun ⟨hne, hdistinct, ho⟩ => FirstDefect.exists_origin hne hdistinct ho⟩
    rintro ⟨t, hd⟩
    cases hd with
    | origin hdistinct horigin hleast =>
      obtain ⟨e, he, -⟩ := List.mem_map.1 hleast.1
      exact ⟨List.ne_nil_of_mem he, hdistinct, horigin⟩
  gap := by
    simp only [ofEntries_eq_error_iff]
    refine ⟨?_, fun ⟨hdistinct, ho, a, b, hgap⟩ => FirstDefect.exists_gap hdistinct ho hgap⟩
    rintro ⟨stop, start, hd⟩
    cases hd with
    | gap hdistinct horigin hgap => exact ⟨hdistinct, horigin, _, _, hgap⟩
  unterminated t := by
    rw [ofEntries_eq_error_iff]
    constructor
    · intro hd
      cases hd with
      | unterminated hdistinct horigin hnone hlast hstop =>
        exact ⟨hdistinct, horigin, hnone, _, hlast, hstop⟩
    · rintro ⟨hdistinct, horigin, hnone, e, hlast, hstop⟩
      exact .unterminated hdistinct horigin hnone hlast hstop
  ok := exists_ofEntries_eq_ok_iff es
  names e := ofEntries_eq_error_iff

/-- The outcome of making a table does not depend on the order of the entries, and on failure it is
the first defect along the tenors. -/
theorem ofEntries_diagnosis (es : List (Entry V)) :
    Diagnosed es (ofEntries es) ∧ ∀ fs : List (Entry V), fs.Perm es → ofEntries fs = ofEntries es :=
  ⟨diagnosed_ofEntries es, fun _ hperm => ofEntries_perm hperm⟩

/-- A shared start comes before a missing origin and a bounded end, wherever it stands. -/
example : (ofEntries [⟨⟨.years 2, some (.years 3), by decide⟩, 0⟩, ⟨.unbounded (.years 1), 1⟩,
    ⟨.unbounded (.years 2), 2⟩] : Except StructureError (Table Nat)) =
    .error (.duplicateStart (.years 2)) := by cbv

end Table

end TermStructure
