import TermStructure.Pattern.CharSet
import TermStructure.Text.Alphanumeric

/-!
# Reading patterns

The reader goes through a pattern once, with the groups that are open. `Pattern.fault?` tells why a
pattern cannot be used: it is malformed or nested too deep, or it needs the edges of Unicode words.
-/

namespace TermStructure

namespace Pattern

/-! ## Open groups -/

/-- A part of an alternative. Modes that are set for what follows are a part too. -/
inductive Part where
  | piece (p : Piece)
  | modes
deriving DecidableEq, Repr

/-- What is kept of a part. -/
def Part.kept : Part → Piece
  | piece p => p
  | modes => {}

/-- A group that is being read: its modes, its finished alternatives, and the parts of the current one
from the last to the first. -/
structure OpenGroup where
  modes : Modes := {}
  alternatives : List Piece := []
  parts : List Part := []
deriving Repr

namespace OpenGroup

/-- The group with one more part. -/
def append (g : OpenGroup) (p : Piece) : OpenGroup :=
  { g with parts := .piece p :: g.parts }

/-- The group at the beginning of its next alternative. -/
def alternate (g : OpenGroup) : OpenGroup :=
  { g with alternatives := Piece.join (g.parts.map Part.kept) :: g.alternatives, parts := [] }

/-- What is kept of all alternatives. -/
def close (g : OpenGroup) : Piece :=
  Piece.join g.alternate.alternatives

/-- Changes the last part, which must not be a change of modes. -/
def modifyLast? (g : OpenGroup) (f : Piece → Piece) : Option OpenGroup :=
  match g.parts with
  | .piece p :: rest => some { g with parts := .piece (f p) :: rest }
  | _ => none

end OpenGroup

/-- A pattern that is being read: the innermost open group, the others outwards, and the names of
groups so far. -/
structure Reading where
  group : OpenGroup := {}
  outer : List OpenGroup := []
  names : List (List Char) := []
deriving Repr

/-! ## Repetitions -/

/-- A number of repetitions, which may have blanks around it. -/
def scanCount (m : Modes) : Scan Nat := fun cs =>
  let (ds, rest) := m.run Char.isDigit ((m.skip cs).dropWhile Text.isBlank)
  match Numeral.ofUnsigned? (2 ^ 32 - 1) ds with
  | some n => some (n, m.skip (rest.dropWhile Text.isBlank))
  | none => none

/-- How often a part is repeated, after the opening brace: the least and the greatest number. -/
def scanBounds (m : Modes) : Scan (Nat × Option Nat) := fun cs =>
  match scanCount m cs with
  | some (n, '\x7d' :: rest) => some ((n, some n), rest)
  | some (n, ',' :: rest) =>
    match m.skip rest with
    | '\x7d' :: rest => some ((n, none), rest)
    | rest =>
      match scanCount m rest with
      | some (n', '\x7d' :: rest) => if n ≤ n' then some ((n, some n'), rest) else none
      | _ => none
  | _ => none

/-- The text after the mark of a repetition that takes as little as it can. -/
def skipLazy : List Char → List Char
  | '?' :: rest => rest
  | cs => cs

/-- A part that is repeated. Nothing is left of it if it is not to occur at all. -/
def Piece.repeated (bounds : Nat × Option Nat) (p : Piece) : Piece :=
  { Piece.enclose [p] with wordEdge := p.wordEdge && bounds != (0, some 0) }

/-! ## Groups -/

/-- Whether a character may be part of the name of a group. -/
def isNameChar (first : Bool) (c : Char) : Bool :=
  if first then c == '_' || Text.isAlphabetic c
  else c == '_' || c == '.' || c == '[' || c == ']' || Text.isAlphanumeric c

/-- The name of a group, up to the bracket after it. -/
def scanGroupName : Scan (List Char) := fun cs =>
  match cs.span (· != '>') with
  | (c :: name, '>' :: rest) =>
    if isNameChar true c && name.all (isNameChar false) then some (c :: name, rest) else none
  | _ => none

/-- The letters that switch modes on, or off after a dash. -/
def modeLetters : List Char :=
  ['i', 'm', 's', 'U', 'u', 'R', 'x']

/-- Whether a text switches modes: each at most once, with at most one dash, not at the end. -/
def isSwitch (cs : List Char) : Bool :=
  cs.all (fun c => modeLetters.contains c || c == '-') && decide cs.Nodup && cs.getLast? != some '-'

/-- The modes after a switch. -/
def Modes.switch (m : Modes) (cs : List Char) : Modes :=
  let (on, off) := cs.span (· != '-')
  let value (letter : Char) (old : Bool) : Bool := on.contains letter || (old && !off.contains letter)
  { ignoreCase := value 'i' m.ignoreCase
    unicode := value 'u' m.unicode
    spaced := value 'x' m.spaced }

namespace Reading

/-- Opens a group. -/
def openGroup (s : Reading) (m : Modes) : Reading :=
  { s with group := { modes := m }, outer := s.group :: s.outer }

/-- Opens a group that has a name, after the bracket before the name. -/
def openNamed? (s : Reading) (cs : List Char) : Option (Reading × List Char) :=
  match scanGroupName cs with
  | some (name, rest) =>
    if s.names.contains name then none
    else some ({ s.openGroup s.group.modes with names := name :: s.names }, rest)
  | none => none

/-- Opens a group with modes of its own, or sets modes up to the end of the group, after the question
mark. -/
def switchModes? (s : Reading) (cs : List Char) : Option (Reading × List Char) :=
  let (letters, rest) := cs.span fun c => c != ':' && c != ')'
  let m := s.group.modes.switch letters
  if isSwitch letters then
    match letters, rest with
    | _, ':' :: rest => some (s.openGroup m, rest)
    | _ :: _, ')' :: rest =>
      some ({ s with group := { s.group with modes := m, parts := .modes :: s.group.parts } }, rest)
    | _, _ => none
  else none

/-- Opens a group after its parenthesis. -/
def open? (s : Reading) (cs : List Char) : Option (Reading × List Char) :=
  match s.group.modes.skip cs with
  | '?' :: 'P' :: '<' :: rest | '?' :: '<' :: rest => s.openNamed? rest
  | '?' :: rest => s.switchModes? rest
  | cs => some (s.openGroup s.group.modes, cs)

/-- Closes the innermost group. -/
def close? (s : Reading) : Option Reading :=
  match s.outer with
  | [] => none
  | g :: outer => some { s with group := g.append (.enclose [s.group.close]), outer := outer }

/-- The reading with one more part. -/
def append (s : Reading) (p : Piece) : Reading :=
  { s with group := s.group.append p }

/-- Repeats the last part. -/
def repeatLast? (s : Reading) (bounds : Nat × Option Nat) : Option Reading :=
  (s.group.modifyLast? (.repeated bounds)).map fun g => { s with group := g }

/-! ## The whole pattern -/

/-- Reads on from a character. -/
def step (s : Reading) (c : Char) (rest : List Char) : Option (Reading × List Char) :=
  let m := s.group.modes
  let one (s? : Option Reading) (rest : List Char) : Option (Reading × List Char) :=
    s?.map fun s => (s, rest)
  match c with
  | '(' => s.open? rest
  | ')' => one s.close? rest
  | '|' => some ({ s with group := s.group.alternate }, rest)
  | '[' => (scanSet m rest).map fun (p, rest) => (s.append p, rest)
  | '?' => one (s.repeatLast? (0, some 1)) (skipLazy rest)
  | '*' => one (s.repeatLast? (0, none)) (skipLazy rest)
  | '+' => one (s.repeatLast? (1, none)) (skipLazy rest)
  | '\x7b' =>
    match scanBounds m rest with
    | some (bounds, rest) => one (s.repeatLast? bounds) (skipLazy (m.skip rest))
    | none => none
  | '.' => if m.unicode then some (s.append {}, rest) else none
  | '^' | '$' => some (s.append {}, rest)
  | _ =>
    match scanAtom m (c :: rest) with
    | some (a, rest) => one ((m.piece? a).map s.append) rest
    | none => none

/-- Reads on to the end. The fuel exceeds the number of characters. -/
def finish? : Nat → Reading → List Char → Option Piece
  | 0, _, _ => none
  | fuel + 1, s, cs =>
    match s.group.modes.skip cs with
    | [] => if s.outer.isEmpty then some s.group.close else none
    | c :: rest =>
      match s.step c rest with
      | some (s, rest) => finish? fuel s rest
      | none => none

end Reading

end Pattern

/-- Why a pattern cannot be used. -/
inductive PatternFault where
  | malformed
  | wordEdge
deriving DecidableEq, Repr

/-- The wording of a fault. -/
def PatternFault.message : PatternFault → String
  | malformed => "error building NFA"
  | wordEdge =>
    "unsupported regex feature for DFAs: cannot build DFAs for regexes with Unicode word " ++
      "boundaries; switch to ASCII word boundaries, or heuristically enable Unicode word " ++
      "boundaries or use a different regex engine"

namespace Pattern

/-- How deep the parts of a pattern may be nested. -/
def maxDepth : Nat := 250

/-- Why a pattern cannot be used, if so. -/
def fault? (pattern : List Char) : Option PatternFault :=
  match Reading.finish? (pattern.length + 1) {} pattern with
  | none => some .malformed
  | some p =>
    if maxDepth < p.depth then some .malformed
    else if p.wordEdge then some .wordEdge
    else none

end Pattern

end TermStructure
