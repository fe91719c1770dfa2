import TermStructure.Error
import TermStructure.Text.Blank

/-!
# Reading dates

Two readers share one grammar of numbers: blanks are skipped before a number; a year is a sign and
any number of digits or else one to four digits; months and days have one or two digits.

`Date.parse` reads lines of files and arguments: blanks around the text are skipped, and a hyphen
must follow the year and the month at once. `Date.ofText` reads document values: blanks may also
stand after each number. The second tells why a text is no date.
-/

namespace TermStructure

/-- Why a document value is no date. -/
inductive DateTextFault where
  | invalidCharacters
  | tooShort
  | outOfRange
  | trailingInput
deriving DecidableEq, Repr

def DateTextFault.message : DateTextFault → String
  | invalidCharacters => "input contains invalid characters"
  | tooShort => "premature end of input"
  | outOfRange => "input is out of range"
  | trailingInput => "trailing input"

namespace Date

/-! ## Parts of a date -/

/-- A nonempty run of digits, at most `width` of them where a width is given. The number has 63
bits. -/
def readDigits (width : Option Nat) (cs : List Char) :
    Except DateTextFault (Nat × List Char) :=
  let run := cs.takeWhile Char.isDigit
  let digits := match width with
    | some w => run.take w
    | none => run
  match cs with
  | [] => .error .tooShort
  | _ =>
    if digits = [] then .error .invalidCharacters
    else
      let n := Nat.ofDigitChars 10 digits 0
      if n < 2 ^ 63 then .ok (n, cs.drop digits.length) else .error .outOfRange

/-- A year that has 32 bits. -/
def readYear (cs : List Char) : Except DateTextFault (Int × List Char) :=
  let signed (sign : Int) (rest : List Char) : Except DateTextFault (Int × List Char) := do
    let (n, rest) ← readDigits none rest
    let year := sign * n
    if -2 ^ 31 ≤ year ∧ year < 2 ^ 31 then .ok (year, rest) else .error .outOfRange
  match Text.trimLeft cs with
  | '-' :: rest => signed (-1) rest
  | '+' :: rest => signed 1 rest
  | body => do
    let (n, rest) ← readDigits (some 4) body
    .ok (n, rest)

/-- A month or a day: one or two digits with a value from 1 to `limit`. -/
def readField (limit : Nat) (cs : List Char) : Except DateTextFault (Nat × List Char) := do
  let (n, rest) ← readDigits (some 2) (Text.trimLeft cs)
  if 1 ≤ n ∧ n ≤ limit then .ok (n, rest) else .error .outOfRange

def readHyphen : List Char → Except DateTextFault (List Char)
  | [] => .error .tooShort
  | '-' :: rest => .ok rest
  | _ => .error .invalidCharacters

/-! ## Whole dates -/

/-- Year, month and day with hyphens between them; `gap` is applied to the text after each
number. Whether the day exists is looked at last. -/
def readWith (gap : List Char → List Char) (cs : List Char) : Except DateTextFault Date := do
  let (year, cs) ← readYear cs
  let cs ← readHyphen (gap cs)
  let (month, cs) ← readField 12 cs
  let cs ← readHyphen (gap cs)
  let (day, cs) ← readField 31 cs
  if gap cs ≠ [] then .error .trailingInput
  else match ofYmd? year month day with
    | some d => .ok d
    | none => .error .outOfRange

/-- Reads a date from a line of a file or an argument. -/
def parse (s : String) : Except ValueError Date :=
  match readWith id (Text.trim s.toList) with
  | .ok d => .ok d
  | .error _ => .error (.invalidDate (.unreadable s))

/-- Reads a date from a document value. -/
def ofText (s : String) : Except DateTextFault Date :=
  readWith Text.trimLeft s.toList

end Date

end TermStructure
