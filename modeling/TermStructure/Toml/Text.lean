import TermStructure.Text.Numeral
import TermStructure.Text.Scan

/-!
# Blanks, strings and keys of TOML documents

A string is on one line or a block over several lines, and has escapes or not; `scanString` reads all
four kinds with one machine that goes through the text character by character. A key is a path of parts
with dots between them.
-/

namespace TermStructure.Toml

/-! ## Blanks and comments -/

/-- The blanks within a line. -/
def isGap (c : Char) : Bool :=
  c == ' ' || c == '\t'

/-- The characters of comments and strings: tabs, and all but control characters. -/
def isTextChar (c : Char) : Bool :=
  c == '\t' || (0x20 ≤ c.toNat && c.toNat ≠ 0x7F)

/-- The text after the blanks in front of it. -/
def skipGap (cs : List Char) : List Char :=
  cs.dropWhile isGap

/-- The text after the line break in front of it. -/
def lineBreak? : List Char → Option (List Char)
  | '\n' :: rest => some rest
  | '\r' :: '\n' :: rest => some rest
  | _ => none

/-- The text after the comment in front of it, if there is one. -/
def skipComment : List Char → List Char
  | '#' :: rest => rest.dropWhile isTextChar
  | cs => cs

/-- The text after the rest of a line that holds at most a comment. The last line needs no break. -/
def lineEnd? (cs : List Char) : Option (List Char) :=
  match skipComment (skipGap cs) with
  | [] => some []
  | cs => lineBreak? cs

/-- The text after blanks, line breaks and comments; `comment` tells whether it begins in one. A
comment must end with its line. -/
def skipLines (comment : Bool) : List Char → Option (List Char)
  | [] => if comment then none else some []
  | '\n' :: rest => skipLines false rest
  | '\r' :: '\n' :: rest => skipLines false rest
  | c :: rest =>
    if comment then (if isTextChar c then skipLines true rest else none)
    else if c == '#' then skipLines true rest
    else if isGap c then skipLines false rest
    else some (c :: rest)

/-! ## Strings -/

/-- A kind of string: its quote, whether it has escapes, and whether it is a block between triple
quotes. -/
structure StringKind where
  quote : Char
  escapes : Bool
  block : Bool

namespace StringKind

/-- A string with escapes. -/
def basic (block : Bool) : StringKind := ⟨'"', true, block⟩

/-- A string whose characters stand for themselves. -/
def literal (block : Bool) : StringKind := ⟨'\x27', false, block⟩

end StringKind

/-- Where the reader of a string stands: between characters; after a carriage return; after a
backslash; among hexadecimal digits, so many of which are missing; after a backslash that ends a line
of a block, before or after the first line break; after a carriage return there; after some quotes of
a block. -/
inductive StringState where
  | plain
  | carriageReturn
  | escape
  | hex (missing value : Nat)
  | fold (broken : Bool)
  | foldReturn
  | quotes (count : Nat)

/-- What a character leads to: more characters of the string and another state, the end of the string
after or before the character, or a malformed text. -/
inductive StringStep where
  | goOn (content : List Char) (state : StringState)
  | close
  | closeBefore (content : List Char)
  | malformed

namespace StringStep

/-- The step of a character between characters. -/
def plain (kind : StringKind) (c : Char) : StringStep :=
  if c = kind.quote then (if kind.block then .goOn [] (.quotes 1) else .close)
  else if c = '\\' ∧ kind.escapes then .goOn [] .escape
  else if c = '\n' ∧ kind.block then .goOn ['\n'] .plain
  else if c = '\r' ∧ kind.block then .goOn [] .carriageReturn
  else if isTextChar c then .goOn [c] .plain
  else .malformed

def escape (kind : StringKind) (c : Char) : StringStep :=
  match c with
  | '"' => .goOn ['"'] .plain
  | '\\' => .goOn ['\\'] .plain
  | 'b' => .goOn ['\x08'] .plain
  | 'f' => .goOn ['\x0c'] .plain
  | 'n' => .goOn ['\n'] .plain
  | 'r' => .goOn ['\r'] .plain
  | 't' => .goOn ['\t'] .plain
  | 'u' => .goOn [] (.hex 4 0)
  | 'U' => .goOn [] (.hex 8 0)
  | c =>
    if ¬ kind.block then .malformed
    else if isGap c then .goOn [] (.fold false)
    else if c = '\n' then .goOn [] (.fold true)
    else if c = '\r' then .goOn [] .foldReturn
    else .malformed

/-- The step of a hexadecimal digit. The number must be a character. -/
def hex (missing value : Nat) (c : Char) : StringStep :=
  match Numeral.hexValue? c with
  | none => .malformed
  | some d =>
    let value := 16 * value + d
    if 1 < missing then .goOn [] (.hex (missing - 1) value)
    else if value.isValidChar then .goOn [Char.ofNat value] .plain
    else .malformed

/-- The step of a character after a folded line. -/
def fold (kind : StringKind) (broken : Bool) (c : Char) : StringStep :=
  if isGap c then .goOn [] (.fold broken)
  else if c = '\n' then .goOn [] (.fold true)
  else if c = '\r' then .goOn [] .foldReturn
  else if broken then plain kind c
  else .malformed

/-- Puts characters in front of those of a step. -/
def prepend (content : List Char) : StringStep → StringStep
  | goOn more state => .goOn (content ++ more) state
  | step => step

/-- The step of a character after some quotes of a block: up to two belong to the string, and the
last three of up to five end it. -/
def quotes (kind : StringKind) (count : Nat) (c : Char) : StringStep :=
  if c = kind.quote then .goOn [] (.quotes (count + 1))
  else if count < 3 then (plain kind c).prepend (List.replicate count kind.quote)
  else if count ≤ 5 then .closeBefore (List.replicate (count - 3) kind.quote)
  else .malformed

def ofState (kind : StringKind) (state : StringState) (c : Char) : StringStep :=
  match state with
  | .plain => plain kind c
  | .carriageReturn => if c = '\n' then .goOn ['\n'] .plain else .malformed
  | .escape => escape kind c
  | .hex missing value => hex missing value c
  | .fold broken => fold kind broken c
  | .foldReturn => if c = '\n' then .goOn [] (.fold true) else .malformed
  | .quotes count => quotes kind count c

end StringStep

/-- The characters of a string up to its end, which may be that of the text, and the text after
it. -/
def scanString (kind : StringKind) : StringState → Scan (List Char)
  | .quotes count, [] =>
    if 3 ≤ count ∧ count ≤ 5 then some (List.replicate (count - 3) kind.quote, []) else none
  | _, [] => none
  | state, c :: rest =>
    match StringStep.ofState kind state c with
    | .goOn content state =>
      (scanString kind state rest).map fun (cs, rest) => (content ++ cs, rest)
    | .close => some ([], rest)
    | .closeBefore content => some (content, c :: rest)
    | .malformed => none

/-- A string of a kind after its opening quotes. A line break at once after those of a block does not
count. -/
def scanStringOf (kind : StringKind) : Scan String := fun cs =>
  let body := if kind.block then (lineBreak? cs).getD cs else cs
  (scanString kind .plain body).map fun (cs, rest) => (String.ofList cs, rest)

def scanText : Scan String
  | '"' :: '"' :: '"' :: rest => scanStringOf (.basic true) rest
  | '"' :: rest => scanStringOf (.basic false) rest
  | '\x27' :: '\x27' :: '\x27' :: rest => scanStringOf (.literal true) rest
  | '\x27' :: rest => scanStringOf (.literal false) rest
  | _ => none

/-! ## Keys -/

def isBareChar (c : Char) : Bool :=
  c.isAlphanum || c == '_' || c == '-'

/-- One part of a key: bare, or a string on one line. -/
def scanKeyPart : Scan String
  | '"' :: rest => scanStringOf (.basic false) rest
  | '\x27' :: rest => scanStringOf (.literal false) rest
  | cs =>
    let bare := cs.takeWhile isBareChar
    if bare = [] then none else some (String.ofList bare, cs.dropWhile isBareChar)

/-- A key of at most `limit` parts with dots between them, and the blanks around them. -/
def scanKey (limit : Nat) : Scan (List String) := fun cs =>
  match limit with
  | 0 => none
  | limit + 1 =>
    match scanKeyPart (skipGap cs) with
    | none => none
    | some (part, cs) =>
      match skipGap cs with
      | '.' :: rest => (scanKey limit rest).map fun (parts, rest) => (part :: parts, rest)
      | cs => some ([part], cs)

/-- The most parts of a key, and the deepest nesting of values. -/
def maxDepth : Nat := 79

end TermStructure.Toml
