import TermStructure.Document.Tree

/-!
# Writing JSON

`compact` writes a tree without blanks. `pretty` puts each item and member on a line of its own,
indented by two spaces per level; empty containers stay on one line. A double that is no number is
written as null. What a malformed tree lacks is not written either.
-/

namespace TermStructure.Json

/-! ## Strings and numbers -/

/-- A character inside a string. Quotes, backslashes and control characters are escaped. -/
def escapeChar (c : Char) : List Char :=
  match c with
  | '"' => ['\\', '"']
  | '\\' => ['\\', '\\']
  | '\n' => ['\\', 'n']
  | '\r' => ['\\', 'r']
  | '\t' => ['\\', 't']
  | '\x08' => ['\\', 'b']
  | '\x0c' => ['\\', 'f']
  | _ =>
    if c.toNat < 0x20 then
      ['\\', 'u', '0', '0', Nat.digitChar (c.toNat / 16), Nat.digitChar (c.toNat % 16)]
    else [c]

/-- A string between quotes. -/
def stringChars (s : List Char) : List Char :=
  '"' :: s.flatMap escapeChar ++ ['"']

/-- The digits of an integer, with its sign. -/
def intChars (n : Int) : List Char :=
  if n < 0 then '-' :: Numeral.digits n.natAbs else Numeral.digits n.natAbs

/-- A double in the layout of documents; null if it is not finite. -/
def floatChars (x : Float) : List Char :=
  if x.isFinite then (FloatText.text .json x).toList else ['n', 'u', 'l', 'l']

/-- A number. One that is too large for a double has lost its digits; any such number stands for
it. -/
def numberChars : Number → List Char
  | .int n => intChars n
  | .float x => floatChars x
  | .tooLarge => ['1', 'e', '9', '9', '9']

/-- A key or string. One with half of a surrogate pair has lost its characters; any such half stands
for it. -/
def keyChars : Key → List Char
  | some s => stringChars s.toList
  | none => ['"', '\\', 'u', 'd', '8', '0', '0', '"']

/-- A leaf of a tree; containers are not leaves. -/
def leafChars : Tree → List Char
  | .null => ['n', 'u', 'l', 'l']
  | .bool true => ['t', 'r', 'u', 'e']
  | .bool false => ['f', 'a', 'l', 's', 'e']
  | .number n => numberChars n
  | .string s => keyChars s
  | .date text => stringChars text.toList
  | _ => []

/-- The closing character, if the container is closed. -/
def closing (c : Char) (ending : Ending) : List Char :=
  if ending = .closed then [c] else []

/-! ## Compact texts -/

mutual

/-- A value without blanks. -/
def compactChars : Tree → List Char
  | .array items ending => '[' :: compactItems items ++ closing ']' ending
  | .tables items => '[' :: compactItems items ++ [']']
  | .object members ending => '\x7b' :: compactMembers members ++ closing '\x7d' ending
  | t => leafChars t

/-- Items with commas between them. -/
def compactItems : List Tree → List Char
  | [] => []
  | [t] => compactChars t
  | t :: rest => compactChars t ++ ',' :: compactItems rest

/-- Members with commas between them. -/
def compactMembers : List (Key × Tree) → List Char
  | [] => []
  | [m] => keyChars m.1 ++ ':' :: compactChars m.2
  | m :: rest => keyChars m.1 ++ ':' :: compactChars m.2 ++ ',' :: compactMembers rest

end

/-- The text of a tree without blanks. -/
def compact (t : Tree) : String :=
  String.ofList (compactChars t)

/-! ## Indented texts -/

/-- A new line with the indentation of a level. -/
def newLine (level : Nat) : List Char :=
  '\n' :: List.replicate (2 * level) ' '

mutual

/-- A value whose lines after the first belong to a level. -/
def prettyChars (level : Nat) : Tree → List Char
  | .array [] ending => '[' :: closing ']' ending
  | .array items ending =>
    '[' :: prettyItems (level + 1) items ++ newLine level ++ closing ']' ending
  | .tables [] => ['[', ']']
  | .tables items => '[' :: prettyItems (level + 1) items ++ newLine level ++ [']']
  | .object [] ending => '\x7b' :: closing '\x7d' ending
  | .object members ending =>
    '\x7b' :: prettyMembers (level + 1) members ++ newLine level ++ closing '\x7d' ending
  | t => leafChars t

/-- Items on lines of their own with commas between them. -/
def prettyItems (level : Nat) : List Tree → List Char
  | [] => []
  | [t] => newLine level ++ prettyChars level t
  | t :: rest => newLine level ++ prettyChars level t ++ ',' :: prettyItems level rest

/-- Members on lines of their own with commas between them. -/
def prettyMembers (level : Nat) : List (Key × Tree) → List Char
  | [] => []
  | [m] => newLine level ++ keyChars m.1 ++ ':' :: ' ' :: prettyChars level m.2
  | m :: rest =>
    newLine level ++ keyChars m.1 ++ ':' :: ' ' :: prettyChars level m.2 ++
      ',' :: prettyMembers level rest

end

/-- The text of a tree with one item or member a line. -/
def pretty (t : Tree) : String :=
  String.ofList (prettyChars 0 t)

end TermStructure.Json
