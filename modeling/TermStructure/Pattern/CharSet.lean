import TermStructure.Pattern.Escape

/-!
# Sets of characters in patterns

A set stands between brackets. Its members are characters, ranges, sets with names and further sets
between brackets, and three operations join members so far with those that follow. Of a set only its
depth matters, so the reader keeps the depths of its members.
-/

namespace TermStructure.Pattern

def setNames : List String :=
  ["alnum", "alpha", "ascii", "blank", "cntrl", "digit", "graph", "lower", "print", "punct", "space",
    "upper", "word", "xdigit"]

/-- A set that is being read: the depth of what stands before its last operation, and the depths of
the members after it. -/
structure OpenSet where
  before : Option Nat := none
  members : List Nat := []
deriving DecidableEq, Repr

namespace OpenSet

/-- The set with one more member. -/
def insert (s : OpenSet) (depth : Nat) : OpenSet :=
  { s with members := depth :: s.members }

/-- The depth of all that was read. -/
def depth (s : OpenSet) : Nat :=
  let members := (Piece.join (s.members.map fun d => { depth := d })).depth
  match s.before with
  | none => members
  | some d => max d members + 1

/-- The set after one more operation. -/
def operate (s : OpenSet) : OpenSet :=
  { before := some s.depth }

end OpenSet

/-- The set between brackets that begins after its opening bracket. Dashes in front, or else a closing
bracket, are members. -/
def scanSetStart (m : Modes) : Scan OpenSet := fun cs =>
  let (negated, cs) := match m.skip cs with
    | '^' :: rest => (true, rest)
    | cs => (false, cs)
  let (dashes, cs) := m.run (· == '-') cs
  let (leading, cs) := match dashes, cs with
    | [], ']' :: rest => ([']'], rest)
    | _, _ => (dashes, cs)
  if (negated && !m.unicode) || !leading.all fun c => m.admitsMember { char := c } then none
  else some ({ members := leading.map fun _ => 0 }, cs)

/-- A set with a name, after its opening bracket; gives whether it is negated. -/
def scanNamed : Scan Bool
  | ':' :: cs =>
    let (negated, cs) := match cs with
      | '^' :: rest => (true, rest)
      | _ => (false, cs)
    match cs.span (· != ':') with
    | (name, ':' :: ']' :: rest) =>
      if setNames.contains (String.ofList name) then some (negated, rest) else none
    | _ => none
  | _ => none

/-- The next character that may count, beyond one number sign. -/
def Modes.peek? (m : Modes) (cs : List Char) : Option Char :=
  if m.spaced then
    match Text.trimLeft cs with
    | '#' :: rest => (Text.trimLeft rest).head?
    | cs => cs.head?
  else cs.head?

/-- The text after a character or a range. A dash before another dash or the closing bracket makes no
range. -/
def skipMember? (m : Modes) (cs : List Char) : Option (List Char) :=
  match scanAtom m cs with
  | none => none
  | some (first, cs) =>
    match m.skip cs with
    | '-' :: rest =>
      if m.peek? rest = some ']' ∨ m.peek? rest = some '-' then
        if m.admitsAtom first then some ('-' :: rest) else none
      else
        match first, scanAtom m (m.skip rest) with
        | .literal a, some (.literal b, rest) =>
          if a.char ≤ b.char ∧ m.admitsMember a ∧ m.admitsMember b then some rest else none
        | _, _ => none
    | cs => if m.admitsAtom first then some cs else none

/-- The depth of a set up to its closing bracket, with the sets around it. The fuel exceeds the number
of characters. -/
def scanMembers (m : Modes) : Nat → List OpenSet → OpenSet → Scan Nat
  | 0, _, _, _ => none
  | fuel + 1, outer, s, cs =>
    match m.skip cs with
    | [] => none
    | ']' :: rest =>
      match outer with
      | [] => some (s.depth + 1, rest)
      | o :: outer => scanMembers m fuel outer (o.insert (s.depth + 1)) rest
    | '[' :: rest =>
      match scanNamed rest with
      | some (negated, rest) =>
        if m.admitsNamed negated then scanMembers m fuel outer (s.insert 0) rest else none
      | none =>
        match scanSetStart m rest with
        | some (inner, rest) => scanMembers m fuel (s :: outer) inner rest
        | none => none
    | '&' :: '&' :: rest | '-' :: '-' :: rest | '~' :: '~' :: rest =>
      scanMembers m fuel outer s.operate rest
    | cs =>
      match skipMember? m cs with
      | some rest => scanMembers m fuel outer (s.insert 0) rest
      | none => none

/-- What is kept of a set after its opening bracket. -/
def scanSet (m : Modes) : Scan Piece := fun cs =>
  match scanSetStart m cs with
  | none => none
  | some (s, cs) =>
    (scanMembers m (cs.length + 1) [] s cs).map fun (depth, rest) => ({ depth := depth }, rest)

end TermStructure.Pattern
