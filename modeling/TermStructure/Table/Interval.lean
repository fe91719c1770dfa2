import TermStructure.Table.Error

/-!
# Intervals of tenors

An interval holds the tenors from its start up to its end, the end excluded; without an end it is
unbounded. An end has a greater length than the start. Intervals are ordered by start, then by end,
the unbounded one last.
-/

namespace TermStructure

/-- The tenors from `start` on and before `stop`. -/
structure Interval where
  start : Tenor
  stop : Option Tenor
  start_length_lt : ∀ e ∈ stop, start.length < e.length
deriving DecidableEq, Repr

namespace Interval

def unbounded (start : Tenor) : Interval :=
  ⟨start, none, by simp⟩

/-- The interval of a start and, if it is bounded, an end. -/
def ofBounds (start : Tenor) (stop : Option Tenor) : Except StructureError Interval :=
  match stop with
  | none => .ok (.unbounded start)
  | some e =>
    if h : start.length < e.length then .ok ⟨start, some e, by simpa using h⟩
    else .error (.invalidInterval start e)

def isUnbounded (i : Interval) : Bool :=
  i.stop.isNone

/-- Whether a tenor lies in the interval. -/
def contains (i : Interval) (t : Tenor) : Bool :=
  i.start.le t && i.stop.all t.lt

/-- Ends in ascending order; the missing one is last. -/
def compareStops : Option Tenor → Option Tenor → Ordering
  | some a, some b => compare a b
  | some _, none => .lt
  | none, some _ => .gt
  | none, none => .eq

/-- By start, then by end. -/
instance : Ord Interval where
  compare a b := (compare a.start b.start).then (compareStops a.stop b.stop)

def le (a b : Interval) : Bool :=
  (compare a b).isLE

/-- The text of an interval, such as `[0D, 1Y)` or `[1Y, inf)`. -/
def text (i : Interval) : String :=
  "[" ++ i.start.text ++ ", " ++ i.stop.elim "inf" Tenor.text ++ ")"

instance : ToString Interval := ⟨text⟩

end Interval

end TermStructure
