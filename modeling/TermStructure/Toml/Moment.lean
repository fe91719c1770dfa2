import TermStructure.Date.Civil
import TermStructure.Toml.Text

/-!
# Dates and times of TOML documents

A moment is a date, a time of day, or a date and a time with an optional offset. Days must exist;
seconds go up to 60.
-/

namespace TermStructure.Toml

/-- The value of exactly `width` digits. -/
def scanFixed (width : Nat) : Scan Nat := fun cs =>
  (Numeral.ofDigits? (cs.take width)).bind fun n =>
    if (cs.take width).length = width then some (n, cs.drop width) else none

/-- Two digits with a value between two bounds. -/
def scanPair (low high : Nat) : Scan Nat := fun cs =>
  (scanFixed 2 cs).filter fun (n, _) => low ≤ n && n ≤ high

/-- The text after a character that must stand in front. -/
def expect (c : Char) : List Char → Option (List Char)
  | d :: rest => if d = c then some rest else none
  | [] => none

def skipDate (cs : List Char) : Option (List Char) := do
  let (year, cs) ← scanFixed 4 cs
  let cs ← expect '-' cs
  let (month, cs) ← scanPair 1 12 cs
  let cs ← expect '-' cs
  let (_, cs) ← scanPair 1 (Civil.daysInMonth year month) cs
  return cs

/-- The text after the decimals of a second, if there are any. -/
def skipDecimals (cs : List Char) : List Char :=
  match cs with
  | '.' :: rest => if rest.takeWhile Char.isDigit = [] then cs else rest.dropWhile Char.isDigit
  | _ => cs

/-- The text after a time of day. -/
def skipTime (cs : List Char) : Option (List Char) := do
  let (_, cs) ← scanPair 0 23 cs
  let cs ← expect ':' cs
  let (_, cs) ← scanPair 0 59 cs
  let cs ← expect ':' cs
  let (_, cs) ← scanPair 0 60 cs
  return skipDecimals cs

/-- The text after hours and minutes of an offset. -/
def skipHoursMinutes (cs : List Char) : Option (List Char) := do
  let (_, cs) ← scanPair 0 23 cs
  let cs ← expect ':' cs
  let (_, cs) ← scanPair 0 59 cs
  return cs

/-- The text after an offset, if there is one. -/
def skipOffset (cs : List Char) : List Char :=
  match cs with
  | 'Z' :: rest => rest
  | 'z' :: rest => rest
  | '+' :: rest => (skipHoursMinutes rest).getD cs
  | '-' :: rest => (skipHoursMinutes rest).getD cs
  | _ => cs

/-- The text after the time that may follow a date. -/
def skipTimeOfDate (cs : List Char) : List Char :=
  match cs with
  | c :: rest =>
    if c = 'T' ∨ c = 't' ∨ c = ' ' then ((skipTime rest).map skipOffset).getD cs else cs
  | [] => cs

/-- A moment, as its text. -/
def scanMoment : Scan String := fun cs =>
  (((skipDate cs).map skipTimeOfDate).or (skipTime cs)).map fun rest =>
    (String.ofList (cs.take (cs.length - rest.length)), rest)

end TermStructure.Toml
