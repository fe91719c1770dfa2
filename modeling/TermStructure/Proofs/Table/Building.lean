import TermStructure.Proofs.FirstOf
import TermStructure.Proofs.Table.Tiling
import TermStructure.Table.Volatility

/-!
# Building from segments

A builder holds the segments that were added to it, whatever operations added them (`Filled.pending`).
Building checks the bounds of one segment after the other: the error is that of the first segment
whose end is not longer than its start, wherever a defect of the whole table may lie
(`Builder.entriesOf_of_firstInvalid`).
-/

namespace TermStructure

universe u

variable {V : Type u}

/-! ## Filling a builder -/

/-- A builder to which some segments were added in order, one by one or as entries. -/
inductive Filled : Builder V → List (Segment V) → Prop where
  | empty : Filled Builder.empty []
  | push {b : Builder V} {ss : List (Segment V)} (start : Tenor) (stop : Option Tenor) (value : V) :
    Filled b ss → Filled (b.push start stop value) (ss ++ [⟨start, stop, value⟩])
  | segment {b : Builder V} {ss : List (Segment V)} (start stop : Tenor) (value : V) :
    Filled b ss → Filled (b.segment start stop value) (ss ++ [⟨start, some stop, value⟩])
  | tail {b : Builder V} {ss : List (Segment V)} (start : Tenor) (value : V) :
    Filled b ss → Filled (b.tail start value) (ss ++ [⟨start, none, value⟩])
  | entry {b : Builder V} {ss : List (Segment V)} (e : Entry V) :
    Filled b ss → Filled (b.entry e) (ss ++ [Segment.ofEntry e])
  | addEntries {b : Builder V} {ss : List (Segment V)} (es : List (Entry V)) :
    Filled b ss → Filled (b.addEntries es) (ss ++ es.map Segment.ofEntry)

theorem Builder.pending_addEntries (b : Builder V) (es : List (Entry V)) :
    (b.addEntries es).pending = b.pending ++ es.map Segment.ofEntry := by
  induction es generalizing b with
  | nil => simp [addEntries]
  | cons e es ih =>
    change ((b.entry e).addEntries es).pending = _
    rw [ih, List.map_cons]
    simp [entry, push, Segment.ofEntry]

theorem Filled.pending {b : Builder V} {ss : List (Segment V)} (h : Filled b ss) : b.pending = ss := by
  induction h with
  | empty => rfl
  | push start stop value _ ih => rw [Builder.push, ih]
  | segment start stop value _ ih => rw [Builder.segment, Builder.push, ih]
  | tail start value _ ih => rw [Builder.tail, Builder.push, ih]
  | entry e _ ih => rw [Builder.entry, Builder.push, ih, Segment.ofEntry]
  | addEntries es _ ih => rw [Builder.pending_addEntries, ih]

theorem filled_pushAll {b : Builder V} {before : List (Segment V)} (h : Filled b before)
    (ss : List (Segment V)) :
    Filled (ss.foldl (fun b s => b.push s.start s.stop s.value) b) (before ++ ss) := by
  induction ss generalizing b before with
  | nil => simpa using h
  | cons s ss ih =>
    have hnext := ih (h.push s.start s.stop s.value)
    rwa [List.append_assoc, List.singleton_append] at hnext

/-! ## The first segment whose bounds are not in order -/

/-- The end of a segment, if there is one, is longer than its start. -/
def Segment.Ordered (s : Segment V) : Prop :=
  ∀ stop ∈ s.stop, stop.longerThan s.start = true

/-- The bounds of the first segment whose end is not longer than its start. -/
def FirstInvalid (ss : List (Segment V)) (start stop : Tenor) : Prop :=
  FirstOf Segment.Ordered
    (fun s => s.start = start ∧ s.stop = some stop ∧ ¬ stop.longerThan start = true) ss

namespace Segment

variable {s : Segment V}

theorem ordered_ofEntry (e : Entry V) : (ofEntry e).Ordered :=
  fun _ hstop => Tenor.longerThan_eq_true.2 (Entry.length_lt_of_stop hstop)

theorem toEntry_eq_error_iff {e : StructureError} : s.toEntry = .error e ↔
    ∃ stop, s.stop = some stop ∧ ¬ stop.longerThan s.start = true ∧
      e = .invalidInterval s.start stop := by
  obtain ⟨start, stop, value⟩ := s
  cases stop with
  | none => simp [toEntry, Interval.ofBounds]
  | some stop =>
    by_cases hlt : start.length < stop.length
    · simp [toEntry, Interval.ofBounds, Tenor.longerThan_eq_true, hlt]
    · simp only [toEntry, Interval.ofBounds, Tenor.longerThan_eq_true, hlt, dite_false,
        Except.error.injEq, Option.some.injEq, exists_eq_left', not_false_eq_true, true_and]
      exact eq_comm

theorem exists_toEntry_iff : (∃ e, s.toEntry = .ok e) ↔ s.Ordered := by
  constructor
  · rintro ⟨e, he⟩
    rw [← toEntry_eq_ok_iff.1 he]
    exact ordered_ofEntry e
  · intro h
    cases he : s.toEntry with
    | ok e => exact ⟨e, rfl⟩
    | error e =>
      obtain ⟨stop, hstop, hnot, -⟩ := toEntry_eq_error_iff.1 he
      exact absurd (h stop hstop) hnot

end Segment

theorem exists_firstInvalid {ss : List (Segment V)} (h : ∃ s ∈ ss, ¬ s.Ordered) :
    ∃ start stop, FirstInvalid ss start stop := by
  obtain ⟨before, s, after, rfl, hbefore, hs⟩ := exists_firstOf h
  cases he : s.toEntry with
  | ok e => exact absurd (Segment.exists_toEntry_iff.1 ⟨e, he⟩) hs
  | error e =>
    obtain ⟨stop, hstop, hlonger, -⟩ := Segment.toEntry_eq_error_iff.1 he
    exact ⟨s.start, stop, before, s, after, rfl, hbefore, rfl, hstop, hlonger⟩

namespace Builder

/-- Segments have no entries because of the first one whose bounds are not in order. -/
theorem entriesOf_of_firstInvalid {ss : List (Segment V)} {start stop : Tenor}
    (h : FirstInvalid ss start stop) : entriesOf ss = .error (.invalidInterval start stop) := by
  refine traverses_entriesOf.eq_error_iff.2 (h.imp (fun s => Segment.exists_toEntry_iff.2) ?_)
  rintro s ⟨rfl, hstop, hlonger⟩
  exact Segment.toEntry_eq_error_iff.2 ⟨stop, hstop, hlonger, rfl⟩

theorem exists_entriesOf {ss : List (Segment V)} (h : ∀ s ∈ ss, s.Ordered) :
    ∃ es, entriesOf ss = .ok es :=
  traverses_entriesOf.exists_eq_ok_iff.2 fun s hs => Segment.exists_toEntry_iff.2 (h s hs)

end Builder

end TermStructure
