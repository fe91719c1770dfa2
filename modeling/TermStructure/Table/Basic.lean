import TermStructure.Table.Interval
import TermStructure.Table.Search

/-!
# Term structure tables

A table gives a value to every tenor: its entries are intervals that tile the tenors from `0D` on,
without gap or overlap, the last one unbounded. `Table.ofEntries` takes entries in any order, sorts
them, and admits exactly the tilings; on failure it names the first defect along the tenors. The
lookup is a binary search over the starts.
-/

namespace TermStructure

/-- A value on an interval of tenors. -/
structure Entry (V : Type u) where
  interval : Interval
  value : V

namespace Entry

variable {V : Type u} {W : Type v}

def start (e : Entry V) : Tenor := e.interval.start

def stop (e : Entry V) : Option Tenor := e.interval.stop

def map (f : V → W) (e : Entry V) : Entry W := ⟨e.interval, f e.value⟩

def startLe (a b : Entry V) : Bool := a.start.le b.start

end Entry

/-- The entries of a term structure in ascending order. -/
structure Table (V : Type u) where
  entries : Array (Entry V)

namespace Table

variable {V : Type u} {W : Type v}

/-! ## Validation -/

/-- The first start that two neighbours share. -/
def sharedStart? : List (Entry V) → Option Tenor
  | a :: b :: rest => if a.start = b.start then some b.start else sharedStart? (b :: rest)
  | _ => none

/-- The first neighbours of which one does not begin where the other ends: the end of the one and
the start of the other. -/
def firstGap? : List (Entry V) → Option (Option Tenor × Tenor)
  | a :: b :: rest => if a.stop = some b.start then firstGap? (b :: rest) else some (a.stop, b.start)
  | _ => none

/-- The end of the last entry, if it is bounded. -/
def lastStop? (es : List (Entry V)) : Option Tenor :=
  es.getLast?.bind Entry.stop

/-- The first defect of entries in ascending order, in a fixed order of kinds. -/
def defect? (es : List (Entry V)) : Option StructureError :=
  match es with
  | [] => some .emptyTable
  | e :: _ =>
    match sharedStart? es with
    | some start => some (.duplicateStart start)
    | none =>
      if e.start ≠ Tenor.zero then some (.missingOrigin e.start)
      else match firstGap? es with
        | some (previousStop, start) => some (.gapOrOverlap previousStop start)
        | none => (lastStop? es).map .unterminatedTable

/-- Entries in ascending order of starts. Entries of one start keep their order. -/
def sortEntries (es : List (Entry V)) : List (Entry V) :=
  es.mergeSort Entry.startLe

/-- The table of some entries in any order, if they tile the tenors. -/
def ofEntries (es : List (Entry V)) : Except StructureError (Table V) :=
  let sorted := sortEntries es
  match defect? sorted with
  | some e => .error e
  | none => .ok ⟨sorted.toArray⟩

/-! ## Reading -/

def toList (t : Table V) : List (Entry V) :=
  t.entries.toList

def size (t : Table V) : Nat :=
  t.entries.size

def isEmpty (t : Table V) : Bool :=
  t.entries.isEmpty

def get? (t : Table V) (i : Nat) : Option (Entry V) :=
  t.entries[i]?

/-- The starts after the first. -/
def boundaries (t : Table V) : List Tenor :=
  (t.toList.drop 1).map Entry.start

/-- The number of entries that start no later than a tenor. -/
def startsUpTo (t : Table V) (tenor : Tenor) : Nat :=
  Search.partitionPoint (fun e => e.start.le tenor) t.entries

/-- The entry whose interval contains a tenor: the last one that starts no later. -/
def lookupEntry (t : Table V) (tenor : Tenor) : Option (Entry V) :=
  match t.startsUpTo tenor with
  | 0 => none
  | n + 1 => t.entries[n]?

/-- The value of the entry whose interval contains a tenor. -/
def lookup (t : Table V) (tenor : Tenor) : Option V :=
  (t.lookupEntry tenor).map Entry.value

/-! ## Changing values -/

def map (f : V → W) (t : Table V) : Table W :=
  ⟨t.entries.map (Entry.map f)⟩

/-- The entries with a function applied to each value in order. The function hands a state on from
one value to the next. -/
def mapEntriesWith {S : Type w} (f : V → S → W × S) : List (Entry V) → S → List (Entry W)
  | [], _ => []
  | e :: rest, s => ⟨e.interval, (f e.value s).1⟩ :: mapEntriesWith f rest (f e.value s).2

/-- The table with a function applied to each value in order. The function hands a state on from one
value to the next. -/
def mapWith {S : Type w} (f : V → S → W × S) (s : S) (t : Table V) : Table W :=
  ⟨(mapEntriesWith f t.toList s).toArray⟩

end Table

end TermStructure
