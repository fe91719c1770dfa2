import TermStructure.Table.Basic

/-!
# Building tables

A builder collects segments in any order and checks nothing. `Builder.build` first checks the
interval of each segment, in the order in which they were added, and then the table as a whole.
-/

namespace TermStructure

/-- A value between two tenors that have not been checked. -/
structure Segment (V : Type u) where
  start : Tenor
  stop : Option Tenor
  value : V

namespace Segment

variable {V : Type u}

def ofEntry (e : Entry V) : Segment V :=
  ⟨e.start, e.stop, e.value⟩

/-- The entry of a segment, if its bounds are in order. -/
def toEntry (s : Segment V) : Except StructureError (Entry V) :=
  match Interval.ofBounds s.start s.stop with
  | .ok i => .ok ⟨i, s.value⟩
  | .error e => .error e

end Segment

/-- Segments that are to become a table, in the order in which they were added. -/
structure Builder (V : Type u) where
  pending : List (Segment V)

namespace Builder

variable {V : Type u}

def empty : Builder V := ⟨[]⟩

/-- Adds a segment whose end may be absent. -/
def push (b : Builder V) (start : Tenor) (stop : Option Tenor) (value : V) : Builder V :=
  ⟨b.pending ++ [⟨start, stop, value⟩]⟩

def segment (b : Builder V) (start stop : Tenor) (value : V) : Builder V :=
  b.push start (some stop) value

def tail (b : Builder V) (start : Tenor) (value : V) : Builder V :=
  b.push start none value

def entry (b : Builder V) (e : Entry V) : Builder V :=
  b.push e.start e.stop e.value

def addEntries (b : Builder V) (es : List (Entry V)) : Builder V :=
  es.foldl entry b

/-- Removes all segments with a given start. -/
def remove (b : Builder V) (start : Tenor) : Builder V :=
  ⟨b.pending.filter fun s => s.start != start⟩

def size (b : Builder V) : Nat :=
  b.pending.length

def isEmpty (b : Builder V) : Bool :=
  b.pending.isEmpty

/-- The entries of some segments, or the error of the first one that has none. -/
def entriesOf : List (Segment V) → Except StructureError (List (Entry V))
  | [] => .ok []
  | s :: rest =>
    match s.toEntry with
    | .error e => .error e
    | .ok e =>
      match entriesOf rest with
      | .error e => .error e
      | .ok es => .ok (e :: es)

/-- Checks all intervals and then the table. -/
def build (b : Builder V) : Except StructureError (Table V) :=
  match entriesOf b.pending with
  | .ok es => Table.ofEntries es
  | .error e => .error e

end Builder

namespace Table

variable {V : Type u}

/-- A builder with the entries of a table. -/
def toBuilder (t : Table V) : Builder V :=
  Builder.empty.addEntries t.toList

end Table

end TermStructure
