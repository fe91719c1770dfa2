import TermStructure.Text.Blank
import TermStructure.Text.Scan

/-!
# Parts of patterns

A pattern describes texts by characters, sets of characters, edges, groups, repetitions and
alternatives. Patterns are checked here and never matched, so of a part only its `Piece` is kept: how
deep it is nested, and whether it needs the edges of Unicode words.

The modes in force where a part stands decide whether it can be used. No table says which Unicode
characters are letters or digits and which differ in case only: under Unicode rules a pattern can
neither ask for such a class nor ignore case. Under byte rules it must not match a part of a character.
-/

namespace TermStructure.Pattern

/-- The modes in force at a place of a pattern. Where it is `spaced`, blanks and comments do not
count. -/
structure Modes where
  ignoreCase : Bool := false
  unicode : Bool := true
  spaced : Bool := false
deriving DecidableEq, Repr

/-- A character that stands for itself. Two hexadecimal digits give it as a `byte`. -/
structure Literal where
  char : Char
  byte : Bool := false
deriving DecidableEq, Repr

/-- What a character or an escape stands for. -/
inductive Atom where
  | literal (l : Literal)
  | shorthand (negated : Bool)
  | textEdge
  | wordEdge
deriving DecidableEq, Repr

/-- What is kept of a part of a pattern. -/
structure Piece where
  depth : Nat := 0
  wordEdge : Bool := false
deriving DecidableEq, Repr

namespace Piece

/-- Parts inside another, which is one level above the deepest of them. -/
def enclose (ps : List Piece) : Piece where
  depth := ps.foldl (fun d p => max d p.depth) 0 + 1
  wordEdge := ps.any (·.wordEdge)

/-- Parts in a row or side by side. One alone is not enclosed. -/
def join : List Piece → Piece
  | [] => {}
  | [p] => p
  | ps => enclose ps

end Piece

/-! ## What the modes admit -/

namespace Modes

/-- Whether a character may stand for itself outside sets. -/
def admits (m : Modes) (l : Literal) : Bool :=
  if m.unicode then !m.ignoreCase else !l.byte || l.char.toNat < 0x80

/-- Whether a character may stand in a set. -/
def admitsMember (m : Modes) (l : Literal) : Bool :=
  if m.unicode then !m.ignoreCase else l.char.toNat < 0x80

/-- Whether a set with a name may be used. -/
def admitsNamed (m : Modes) (negated : Bool) : Bool :=
  if m.unicode then !m.ignoreCase else !negated

/-- Whether a class of one letter may be used. -/
def admitsShorthand (m : Modes) (negated : Bool) : Bool :=
  !m.unicode && !negated

/-- What is kept of an atom outside sets, if it may be used. -/
def piece? (m : Modes) : Atom → Option Piece
  | .literal l => if m.admits l then some {} else none
  | .shorthand negated => if m.admitsShorthand negated then some {} else none
  | .textEdge => some {}
  | .wordEdge => some { wordEdge := m.unicode }

/-- Whether an atom may stand in a set. -/
def admitsAtom (m : Modes) : Atom → Bool
  | .literal l => m.admitsMember l
  | .shorthand negated => m.admitsShorthand negated
  | .textEdge | .wordEdge => false

/-! ## Blanks and comments -/

/-- The text after blanks and comments; `comment` tells whether it begins in one. -/
def skipSpace (comment : Bool) : List Char → List Char
  | [] => []
  | c :: rest =>
    if comment then skipSpace (c != '\n') rest
    else if Text.isBlank c then skipSpace false rest
    else if c == '#' then skipSpace true rest
    else c :: rest

/-- The text after what does not count in front of it. -/
def skip (m : Modes) (cs : List Char) : List Char :=
  if m.spaced then skipSpace false cs else cs

/-- The characters in front that satisfy a condition, and the text after them; `comment` tells whether
it begins in a comment. -/
def runFrom (m : Modes) (p : Char → Bool) (comment : Bool) :
    List Char → List Char × List Char
  | [] => ([], [])
  | c :: rest =>
    if comment then m.runFrom p (c != '\n') rest
    else if m.spaced && Text.isBlank c then m.runFrom p false rest
    else if m.spaced && c == '#' then m.runFrom p true rest
    else if p c then
      let (run, rest) := m.runFrom p false rest
      (c :: run, rest)
    else ([], c :: rest)

/-- The characters in front that satisfy a condition, and the text after them. -/
def run (m : Modes) (p : Char → Bool) (cs : List Char) : List Char × List Char :=
  m.runFrom p false cs

end Modes

end TermStructure.Pattern
