/-!
# Capital letters

Names are compared without regard to case, by their capital spelling. All names are spelled with
ASCII characters, so only the characters whose capital spelling is ASCII need an entry: the letters
`a` to `z`, the dotless i, the long and the sharp s, and the Latin ligatures. Any other character
stands for itself, and no name contains it.
-/

namespace TermStructure.Text

/-- The capital spelling of a character, where that spelling is ASCII. -/
def capital (c : Char) : List Char :=
  match c.toNat with
  | 0x00DF => ['S', 'S']
  | 0x0131 => ['I']
  | 0x017F => ['S']
  | 0xFB00 => ['F', 'F']
  | 0xFB01 => ['F', 'I']
  | 0xFB02 => ['F', 'L']
  | 0xFB03 => ['F', 'F', 'I']
  | 0xFB04 => ['F', 'F', 'L']
  | 0xFB05 => ['S', 'T']
  | 0xFB06 => ['S', 'T']
  | _ => [c.toUpper]

/-- The capital spelling of a text. -/
def capitals (cs : List Char) : List Char :=
  cs.flatMap capital

end TermStructure.Text
