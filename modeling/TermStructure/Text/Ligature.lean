import TermStructure.Text.CharWidth

/-!
# Ligatures

In some scripts a character is written together with those before it, and they share a cell. A text
is measured from its end, so a `Ligature` is what a text begins with that can join the character in
front of it.
-/

namespace TermStructure.Text

/-- The joiner of zero width. -/
def joiner : Char := '\u200D'

/-- Whether a character is a combining mark that can be ignored. -/
def isIgnorableMark (c : Char) : Bool :=
  inRanges [(0x34F, 0x34F), (0x17B4, 0x17B5), (0x180B, 0x180D), (0x180F, 0x180F), (0xFE00, 0xFE0F),
    (0xE0100, 0xE01EF)] c

/-! ## Letters -/

/-- Whether a character is an Arabic letter of the form of alef. -/
def isAlef (c : Char) : Bool :=
  inRanges [(0x622, 0x623), (0x625, 0x625), (0x627, 0x627), (0x671, 0x673), (0x675, 0x675),
    (0x773, 0x774), (0x870, 0x882)] c

/-- Whether a character is an Arabic letter of the form of lam. -/
def isLam (c : Char) : Bool :=
  inRanges [(0x644, 0x644), (0x6B5, 0x6B8), (0x76A, 0x76A), (0x8A6, 0x8A6), (0x8C7, 0x8C7)] c

/-- Whether a character does not interrupt the ligature of a lam and an alef. -/
def isArabicMark (c : Char) : Bool :=
  charWidth c == 0 && !inRanges interruptingRanges c

/-- Whether a character is a Khmer letter that can be written below another. -/
def isKhmerSubscript (c : Char) : Bool :=
  inRanges [(0x1780, 0x1782), (0x1784, 0x1787), (0x1789, 0x178C), (0x178E, 0x1793),
    (0x1795, 0x1798), (0x179B, 0x179D), (0x17A0, 0x17A0), (0x17A2, 0x17A2), (0x17A7, 0x17A7),
    (0x17AB, 0x17AC), (0x17AF, 0x17AF)] c

def isTifinaghConsonant (c : Char) : Bool :=
  inRanges [(0x2D31, 0x2D65), (0x2D6F, 0x2D6F)] c

/-! ## Joining -/

/-- The beginning of a text that can join a character in front of it: a letter, with a joiner before
it or not, or a part of a ligature that begins with its vowel or its consonant joiner. -/
inductive Ligature where
  | arabicAlef
  | hebrewLamed (joined : Bool)
  | khmerSubscript
  | bugineseYa (joined : Bool)
  | bugineseVowelYa
  | tifinagh (joined : Bool)
  | tifinaghJoiner
  | lisuTone
  | turkicI (joined : Bool)
  | raiVowelE
  | raiVowelAi
deriving DecidableEq, Repr

namespace Ligature

/-- The ligature that a character can end. -/
def ofChar? (c : Char) : Option Ligature :=
  match c.toNat with
  | 0x5DC => some (hebrewLamed false)
  | 0x1A10 => some (bugineseYa false)
  | 0xA4FC => some lisuTone
  | 0xA4FD => some lisuTone
  | 0x10C03 => some (turkicI false)
  | 0x16D67 => some raiVowelE
  | 0x16D68 => some raiVowelAi
  | _ =>
    if isAlef c then some arabicAlef
    else if isKhmerSubscript c then some khmerSubscript
    else if isTifinaghConsonant c then some (tifinagh false)
    else none

/-- Whether joiners and marks that can be ignored may stand inside the ligature. Arabic has a rule of
its own. -/
def passesMarks : Ligature → Bool
  | arabicAlef => false
  | raiVowelE => false
  | raiVowelAi => false
  | _ => true

/-- Whether a selector of another form may stand inside the ligature. -/
def passesSelectors (l : Ligature) : Bool :=
  l.passesMarks || l = arabicAlef

/-- The ligature after a joiner in front. -/
def join : Ligature → Ligature
  | hebrewLamed _ => hebrewLamed true
  | bugineseYa _ => bugineseYa true
  | tifinagh _ => tifinagh true
  | turkicI _ => turkicI true
  | l => l

/-- The cells that a letter in front adds as a part of the ligature, and what it can be continued by. A
sign of subscription takes back the cell of its letter, and so does the first consonant around a
visible joiner. -/
def letter? (l : Ligature) (c : Char) : Option (Int × Option Ligature) :=
  match l, c.toNat with
  | arabicAlef, _ =>
    if isLam c then some (0, none) else if isArabicMark c then some (0, some l) else none
  | hebrewLamed true, 0x5D0 => some (0, none)
  | khmerSubscript, 0x17D2 => some (-1, none)
  | bugineseYa true, 0x1A17 => some (0, some bugineseVowelYa)
  | bugineseVowelYa, 0x1A15 => some (0, none)
  | tifinagh _, 0x2D7F => some (1, some tifinaghJoiner)
  | tifinagh true, _ => if isTifinaghConsonant c then some (0, none) else none
  | tifinaghJoiner, _ => if isTifinaghConsonant c then some (-1, none) else none
  | lisuTone, _ => if inRanges [(0xA4F8, 0xA4FB)] c then some (0, none) else none
  | turkicI true, 0x10C32 => some (0, none)
  | raiVowelE, 0x16D63 => some (0, none)
  | raiVowelE, 0x16D67 => some (0, some raiVowelAi)
  | raiVowelE, 0x16D68 => some (1, some raiVowelE)
  | raiVowelE, 0x16D69 => some (0, none)
  | raiVowelAi, 0x16D63 => some (0, none)
  | _, _ => none

/-- The cells that a character in front adds as a part of the ligature, and what it can be continued
by. -/
def before? (l : Ligature) (c : Char) : Option (Int × Option Ligature) :=
  if l.passesMarks && c == joiner then some (0, some l.join)
  else if l.passesMarks && isIgnorableMark c then some (0, some l)
  else l.letter? c

end Ligature

end TermStructure.Text
