import TermStructure.Text.EmojiSequence

/-!
# Widths of texts

How many cells of a terminal a text takes. It is the sum of the widths of its characters, save for
ligatures, for emoji that are written as sequences, and for characters before a selector of another
form. The text is measured from its end, so a character is met after what can change its width. In a
text of narrow characters none of this arises (`width_of_narrow`).
-/

namespace TermStructure.Text

/-! ## Selectors -/

/-- A character that asks for another form of the one in front of it. -/
inductive Selector where
  | emoji
  | text
  | fullWidth
deriving DecidableEq, Repr

/-- The selector that a character is. -/
def Selector.ofChar? (c : Char) : Option Selector :=
  match c with
  | '\uFE01' => some .fullWidth
  | '\uFE0E' => some .text
  | '\uFE0F' => some .emoji
  | _ => none

/-- Whether a character is a quotation mark with a form of full width. -/
def isQuotationMark (c : Char) : Bool :=
  inRanges [(0x2018, 0x2019), (0x201C, 0x201D)] c

/-- Whether a selector changes the form of a character. -/
def Selector.appliesTo (s : Selector) (c : Char) : Bool :=
  match s with
  | emoji => hasTwoForms c
  | text => narrowsAsText c
  | fullWidth => isQuotationMark c

/-! ## Openings -/

/-- The beginning of a text that can join a character in front of it. -/
inductive Sequel where
  | ligature (l : Ligature)
  | emoji (e : EmojiSequence)
deriving DecidableEq, Repr

namespace Sequel

/-- What a character begins. -/
def ofChar? (c : Char) : Option Sequel :=
  ((EmojiSequence.ofChar? c).map emoji).or ((Ligature.ofChar? c).map ligature)

/-- The cells that a character in front adds as a part of what it joins, and what then begins. -/
def before? (s : Sequel) (c : Char) : Option (Int × Option Sequel) :=
  match s with
  | ligature l => (l.before? c).map fun (w, l?) => (w, l?.map ligature)
  | emoji e => (e.before? c).map fun (w, e) => (w, some (emoji e))

/-- Whether a selector may stand in front without an end of the sequel. -/
def passes (s : Sequel) (selector : Selector) : Bool :=
  match s with
  | ligature l => l.passesSelectors
  | emoji e => selector = .emoji && e.passesSelector

end Sequel

/-- What a text begins with, as far as it can change the width of a character in front of it. -/
structure Opening where
  selector : Option Selector := none
  sequel : Option Sequel := none
deriving DecidableEq, Repr

namespace Opening

/-- The opening without its selector, which did not apply. An emoji cannot be continued past it. -/
def release (o : Opening) : Opening :=
  match o.selector, o.sequel with
  | some _, some (.emoji _) => {}
  | _, sequel => { sequel := sequel }

/-- The opening with a selector in front. -/
def select (o : Opening) (s : Selector) : Opening :=
  { selector := some s, sequel := o.sequel.filter (·.passes s) }

/-- The cells of a character whose form is selected, and the opening that it makes. An emoji that is
joined to another is part of it. -/
def selected? (o : Opening) (c : Char) : Option (Int × Opening) :=
  match o.selector with
  | none => none
  | some s =>
    if s.appliesTo c then
      match s, o.sequel with
      | .emoji, some (.emoji _) => some (0, { sequel := some (.emoji .emoji) })
      | .emoji, _ => some (2, { sequel := some (.emoji .emoji) })
      | .text, _ => some (1, {})
      | .fullWidth, _ => some (2, {})
    else none

/-- The cells of a character without a selected form, and the opening that it makes. -/
def unselected (o : Opening) (c : Char) : Int × Opening :=
  if c.toNat ≤ 0xA0 then (1, {})
  else
    match Selector.ofChar? c with
    | some s => (0, o.select s)
    | none =>
      match o.sequel.bind (·.before? c) with
      | some (w, sequel) => (w, { sequel := sequel })
      | none => (charWidth c, { sequel := Sequel.ofChar? c })

/-- The cells that a character in front of an opening adds, and the opening that it makes. -/
def before (o : Opening) (c : Char) : Int × Opening :=
  (o.selected? c).getD (o.release.unselected c)

end Opening

/-! ## Texts -/

/-- The cells of a text, and what it begins with. -/
def measure : List Char → Int × Opening
  | [] => (0, {})
  | c :: rest =>
    let (sum, o) := measure rest
    let (w, o) := o.before c
    (sum + w, o)

/-- The number of cells of a text. -/
def width (cs : List Char) : Nat :=
  (measure cs).1.toNat

theorem measure_of_narrow {cs : List Char} (h : ∀ c ∈ cs, c.toNat ≤ 0xA0) :
    measure cs = ((cs.length : Int), {}) := by
  induction cs with
  | nil => rfl
  | cons c rest ih =>
    have hc : c.toNat ≤ 0xA0 := h c (by simp)
    have hrest := ih fun d hd => h d (by simp [hd])
    simp [measure, hrest, Opening.before, Opening.selected?, Opening.unselected, hc]

theorem width_of_narrow {cs : List Char} (h : ∀ c ∈ cs, c.toNat ≤ 0xA0) :
    width cs = cs.length := by
  simp [width, measure_of_narrow h]

end TermStructure.Text
