import TermStructure.Pattern.Basic
import TermStructure.Text.Numeral

/-!
# Escapes of patterns

After a backslash, letters stand for control characters, classes and edges, or begin the code of a
character; every other ASCII character stands for itself, digits apart. Classes by Unicode property
are not known.
-/

namespace TermStructure.Pattern

def isHexDigit (c : Char) : Bool :=
  (Numeral.hexValue? c).isSome

/-- The character of a code. -/
def charOfHex? (ds : List Char) : Option Char :=
  (Numeral.ofHex? ds).bind fun n => if n.isValidChar then some (Char.ofNat n) else none

/-- A number of hexadecimal digits. -/
def scanHexDigits (m : Modes) : Nat → Scan (List Char)
  | 0, cs => some ([], cs)
  | n + 1, cs =>
    match m.skip cs with
    | c :: rest =>
      if isHexDigit c then (scanHexDigits m n rest).map fun (ds, rest) => (c :: ds, rest) else none
    | [] => none

/-- A character by its code: hexadecimal digits between braces, or as many as `width`. -/
def scanCode (m : Modes) (width : Nat) : Scan Literal := fun cs =>
  match m.skip cs with
  | '\x7b' :: rest =>
    match m.run isHexDigit rest with
    | (d :: ds, '\x7d' :: rest) => (charOfHex? (d :: ds)).map fun c => (⟨c, false⟩, rest)
    | _ => none
  | cs =>
    match scanHexDigits m width cs with
    | some (ds, rest) => (charOfHex? ds).map fun c => (⟨c, width == 2⟩, rest)
    | none => none

/-- Whether a character may be part of the name of a word edge. -/
def isEdgeChar (c : Char) : Bool :=
  c.isAlpha || c == '-'

/-- The edges of a word that have names. -/
def wordEdgeNames : List String :=
  ["start", "end", "start-half", "end-half"]

/-- The text after the name of a word edge, which stands between braces. Braces that do not begin with
such a name are left alone. -/
def skipEdgeName? (m : Modes) : List Char → Option (List Char)
  | '\x7b' :: rest =>
    match m.run isEdgeChar rest with
    | ([], []) => none
    | ([], _) => some ('\x7b' :: rest)
    | (name, '\x7d' :: rest) =>
      if wordEdgeNames.contains (String.ofList name) then some rest else none
    | _ => none
  | cs => some cs

/-- An escape after its backslash. -/
def scanEscape (m : Modes) : Scan Atom
  | [] => none
  | c :: rest =>
    let control (n : Nat) : Option (Atom × List Char) := some (.literal ⟨Char.ofNat n, false⟩, rest)
    let code (width : Nat) : Option (Atom × List Char) :=
      (scanCode m width rest).map fun (l, rest) => (.literal l, rest)
    match c with
    | 'a' => control 0x07
    | 't' => control 0x09
    | 'n' => control 0x0A
    | 'v' => control 0x0B
    | 'f' => control 0x0C
    | 'r' => control 0x0D
    | 'x' => code 2
    | 'u' => code 4
    | 'U' => code 8
    | 'd' | 's' | 'w' => some (.shorthand false, rest)
    | 'D' | 'S' | 'W' => some (.shorthand true, rest)
    | 'A' | 'z' => some (.textEdge, rest)
    | 'b' => (skipEdgeName? m rest).map fun rest => (.wordEdge, rest)
    | 'B' | '<' | '>' => some (.wordEdge, rest)
    | _ =>
      if c.isAlphanum || 0x80 ≤ c.toNat then none else some (.literal ⟨c, false⟩, rest)

/-- What stands for itself or is escaped. -/
def scanAtom (m : Modes) : Scan Atom
  | '\\' :: rest => scanEscape m rest
  | c :: rest => some (.literal ⟨c, false⟩, rest)
  | [] => none

end TermStructure.Pattern
