import TermStructure.Text.Emoji
import TermStructure.Text.Ligature

/-!
# Emoji sequences

Several characters may be shown as one emoji: an emoji with a modifier, a flag of two regional
indicators or of tags, and emoji with joiners between them. A text is measured from its end, so an
`EmojiSequence` is what a text begins with that can continue an emoji in front of it.
-/

namespace TermStructure.Text

/-- The beginning of a text that can continue an emoji. After a joiner that has an emoji behind it
there may be a keycap, regional indicators, or tags up to their end; they are counted. -/
inductive EmojiSequence where
  | emoji
  | modifier
  | indicator
  | indicators
  | joined
  | joinedKeycap
  | joinedIndicators (count : Nat)
  | joinedTagLetters (count : Nat)
  | joinedTagDigits (count : Nat)
deriving DecidableEq, Repr

namespace EmojiSequence

/-- The sequence that a character can end. -/
def ofChar? (c : Char) : Option EmojiSequence :=
  if isIndicator c then some indicator
  else if isModifier c then some modifier
  else if isEmoji c then some emoji
  else none

/-- Whether a joiner in front makes the sequence part of another emoji. -/
def joinable : EmojiSequence → Bool
  | emoji => true
  | modifier => true
  | indicators => true
  | joinedIndicators count => count ≠ 1
  | _ => false

/-- Whether a selector of the emoji form may stand in front without an end of the sequence. -/
def passesSelector : EmojiSequence → Bool
  | joined => true
  | joinedKeycap => true
  | _ => false

/-- The letter or digit of a tag. -/
inductive Tag where
  | letter
  | digit

/-- The tag that a character is. -/
def tag? (c : Char) : Option Tag :=
  if inRanges [(0xE0061, 0xE007A)] c then some .letter
  else if inRanges [(0xE0030, 0xE0039)] c then some .digit
  else none

/-- The beginning of tags with one more in front. A region has two letters or three digits, its part up
to four of both. -/
def tagBefore? : EmojiSequence → Tag → Option EmojiSequence
  | joinedTagLetters n, .letter => if n < 6 then some (joinedTagLetters (n + 1)) else none
  | joinedTagLetters n, .digit => if n ≤ 4 then some (joinedTagDigits 1) else none
  | joinedTagDigits n, .digit => if n < 3 then some (joinedTagDigits (n + 1)) else none
  | _, _ => none

/-- Whether tags are complete but for the flag in front. -/
def tagsComplete : EmojiSequence → Bool
  | joinedTagLetters n => 3 ≤ n
  | joinedTagDigits n => n = 3
  | _ => false

/-- The cells that a regional indicator in front of `count` others adds: each takes one until it finds
its pair, which then is part of the emoji. -/
def indicatorWidth (count : Nat) : Int :=
  if count = 0 then 1 else if count % 2 = 1 then -1 else 3

/-- The cells that a character in front adds as a part of the sequence, and what it can be continued
by. -/
def before? (e : EmojiSequence) (c : Char) : Option (Int × EmojiSequence) :=
  if c = joiner then (if e.joinable then some (0, joined) else none)
  else if isIndicator c then
    match e with
    | indicator => some (1, indicators)
    | indicators => some (1, indicators)
    | joined => some (indicatorWidth 0, joinedIndicators 1)
    | joinedIndicators n => some (indicatorWidth n, joinedIndicators (n + 1))
    | _ => none
  else
    match e with
    | modifier => if isModifierBase c then some (0, emoji) else none
    | joined =>
      if c = '\u20E3' then some (0, joinedKeycap)
      else if isModifier c then some (0, modifier)
      else if c.toNat = 0xE007F then some (0, joinedTagLetters 0)
      else if isEmoji c then some (0, emoji)
      else none
    | e =>
      match tag? c with
      | some t => (e.tagBefore? t).map fun e => (0, e)
      | none => if e.tagsComplete && c.toNat = 0x1F3F4 then some (0, emoji) else none

end EmojiSequence

end TermStructure.Text
