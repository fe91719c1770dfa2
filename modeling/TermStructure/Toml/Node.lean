import TermStructure.Document.Tree

/-!
# Assembling TOML tables

The keys and headers of a document add to tables under paths. A table is written out under its own
header or between braces, or it came about on the way: by a header of a table inside it, or by a
dotted key. What is written out is complete: a dotted key cannot add to it, and it cannot be written
out again. A header can still be given to a table that came about by headers. The last table of an
array of tables stands for the array on the way of a path.
-/

namespace TermStructure.Toml

/-- How a table came about: it was written out, or it lies on the way of a header, or on the way of a
dotted key. -/
inductive Origin where
  | written
  | header
  | dotted
deriving DecidableEq

/-- What a key stands for: a value, a table, or an array of tables. -/
inductive Node where
  | leaf (t : Tree)
  | table (origin : Origin) (entries : List (String × Node))
  | tables (elements : List (List (String × Node)))

/-- The keys of a table with what they stand for, in the order of their first mention. -/
abbrev Entries := List (String × Node)

namespace Node

mutual

/-- The content of a node as a tree. -/
def toTree : Node → Tree
  | leaf t => t
  | table _ entries => .object (entriesToMembers entries) .closed
  | tables elements => .tables (elementsToItems elements)

/-- The entries of a table as members. -/
def entriesToMembers : List (String × Node) → List (Key × Tree)
  | [] => []
  | e :: rest => (some e.1, e.2.toTree) :: entriesToMembers rest

/-- The tables of an array as items. -/
def elementsToItems : List (List (String × Node)) → List Tree
  | [] => []
  | e :: rest => .object (entriesToMembers e) .closed :: elementsToItems rest

end

end Node

namespace Entries

def get? (es : Entries) (key : String) : Option Node :=
  (es.find? (·.1 == key)).map (·.2)

/-- Puts a node in the place of the one under its key, or at the end. -/
def put (es : Entries) (key : String) (n : Node) : Entries :=
  match es with
  | [] => [(key, n)]
  | e :: rest => if e.1 == key then (key, n) :: rest else e :: put rest key n

def erase (es : Entries) (key : String) : Entries :=
  es.filter (·.1 != key)

/-- Changes the table at the end of a path, which comes about if it is not there. A path of a dotted
key does not go through tables that are written out. -/
def change (dotted : Bool) (edit : Origin → Entries → Option Entries) :
    List String → Origin → Entries → Option Entries
  | [], origin, es => edit origin es
  | key :: path, _, es =>
    match es.get? key with
    | none =>
      let origin := if dotted then .dotted else .header
      (change dotted edit path origin []).map fun new => es ++ [(key, .table origin new)]
    | some (.leaf _) => none
    | some (.table origin inner) =>
      if dotted ∧ origin = .written then none
      else (change dotted edit path origin inner).map fun new => es.put key (.table origin new)
    | some (.tables elements) =>
      match elements.getLast? with
      | none => none
      | some inner =>
        (change dotted edit path .written inner).map fun new =>
          es.put key (.tables (elements.dropLast ++ [new]))

/-- Adds a value under a dotted key to a table that is written out. The last part of the key must be
new, in this table or in one that dotted keys made. -/
def assign (es : Entries) (path : List String) (t : Tree) : Option Entries :=
  let parents := path.dropLast
  let edit (origin : Origin) (es : Entries) : Option Entries :=
    match path.getLast? with
    | none => none
    | some key =>
      if (origin = .dotted ↔ parents = []) ∨ (es.get? key).isSome then none
      else some (es ++ [(key, .leaf t)])
  change true edit parents .written es

def assignAll (es : Entries) : List (List String × Tree) → Option Entries
  | [] => some es
  | (path, t) :: rest => (es.assign path t).bind fun es => es.assignAll rest

/-- The table of some keys with values. -/
def ofPairs (pairs : List (List String × Tree)) : Option Tree :=
  (assignAll [] pairs).map fun es => (Node.table .written es).toTree

end Entries

/-! ## Sections -/

/-- The heading of a section: of a table, or of one more table of an array. -/
structure Heading where
  path : List String
  ofArray : Bool

/-- Adds a section to the root table: a heading and the keys below it with their values. A table that
came about by headers moves to the end when it is written out. -/
def Entries.addSection (root : Entries) (heading : Heading) (pairs : List (List String × Tree)) :
    Option Entries :=
  let edit (_ : Origin) (es : Entries) : Option Entries :=
    match heading.path.getLast? with
    | none => none
    | some key =>
      match es.get? key, heading.ofArray with
      | none, false => (assignAll [] pairs).map fun new => es ++ [(key, .table .written new)]
      | some (.table .header inner), false =>
        (assignAll inner pairs).map fun new => es.erase key ++ [(key, .table .written new)]
      | none, true => (assignAll [] pairs).map fun new => es ++ [(key, .tables [new])]
      | some (.tables elements), true =>
        (assignAll [] pairs).map fun new => es.put key (.tables (elements ++ [new]))
      | _, _ => none
  change false edit heading.path.dropLast .written root

end TermStructure.Toml
