import TermStructure.Document.Tree

/-!
# Numbers of JSON documents

A number is an integer part without leading zeros, an optional fraction and an optional exponent.
Integers that have 64 bits are exact. All other numbers are doubles: the digits that fit into 64
bits, as a double, are multiplied or divided once by a power of ten. The number of digits left out
and of places moves the power.
-/

namespace TermStructure.Json

/-- The greatest number of 64 bits without sign. -/
def maxSignificand : Nat := 2 ^ 64 - 1

/-- Appends digits to a number as long as it has 64 bits; gives the digits that are left. -/
def absorb (significand : Nat) : List Char → Nat × List Char
  | [] => (significand, [])
  | c :: rest =>
    let next := 10 * significand + (c.toNat - '0'.toNat)
    if next ≤ maxSignificand then absorb next rest else (significand, c :: rest)

def powerOfTen (e : Nat) : Float :=
  Float.ofScientific 1 false e

/-- `f * 10 ^ e`. Powers that no double holds are split; a result that no double holds is none. The
fuel covers the steps after which any double has become zero. -/
def scaled (f : Float) (e : Int) : Nat → Option Float
  | 0 => some 0
  | fuel + 1 =>
    if e.natAbs ≤ 308 then
      if 0 ≤ e then
        let x := f * powerOfTen e.natAbs
        if x.isInf then none else some x
      else some (f / powerOfTen e.natAbs)
    else if f == 0 then some f
    else if 0 ≤ e then none
    else scaled (f / powerOfTen 308) (e + 308) fuel

/-- The double of a sign, a significand and an exponent. -/
def floatNumber (negative : Bool) (significand : Nat) (e : Int) : Number :=
  match scaled (Float.ofNat significand) e 8 with
  | some x => .float (if negative then -x else x)
  | none => .tooLarge

/-- The double of a significand whose exponent has more than 32 bits. -/
def extremeNumber (negative : Bool) (significand : Nat) (negativeExponent : Bool) : Number :=
  if significand ≠ 0 ∧ ¬ negativeExponent then .tooLarge
  else .float (if negative then -0.0 else 0.0)

/-- An integer of 64 bits. Zero with a minus sign, and negative numbers of 64 bits without room for
their sign, are doubles. -/
def intNumber (negative : Bool) (significand : Nat) : Number :=
  if ¬ negative then .int significand
  else if significand = 0 ∨ 2 ^ 63 < significand then .float (-Float.ofNat significand)
  else .int (-(significand : Int))

/-- The parts of the text of a number: digits of the integer part, digits of the fraction if there is
one, and the sign and digits of the exponent if there is one. -/
structure NumberText where
  negative : Bool
  whole : List Char
  fraction : Option (List Char)
  exponent : Option (Bool × List Char)
deriving DecidableEq, Repr

/-- The value of a number's text. -/
def NumberText.number (t : NumberText) : Number :=
  let (significand, left) := absorb 0 t.whole
  match left, t.fraction, t.exponent with
  | [], none, none => intNumber t.negative significand
  | _, _, _ =>
    let places := t.fraction.getD []
    let (significand, unread) := absorb significand places
    let shift : Int := left.length - (places.length - unread.length : Nat)
    match t.exponent with
    | none => floatNumber t.negative significand shift
    | some (negativeExponent, digits) =>
      let e := Nat.ofDigitChars 10 digits 0
      if 2 ^ 31 ≤ e then extremeNumber t.negative significand negativeExponent
      else floatNumber t.negative significand (if negativeExponent then shift - e else shift + e)

/-! ## Scanning -/

/-- A nonempty run of digits and the text after it. -/
def scanDigits? (cs : List Char) : Option (List Char × List Char) :=
  let digits := cs.takeWhile Char.isDigit
  if digits = [] then none else some (digits, cs.dropWhile Char.isDigit)

/-- The integer part: a single zero, or digits that begin with another one. -/
def scanWhole? (cs : List Char) : Option (List Char × List Char) :=
  match scanDigits? cs with
  | some (['0'], rest) => some (['0'], rest)
  | some ('0' :: _, _) => none
  | other => other

/-- The fraction, if a point follows. -/
def scanFraction? (cs : List Char) : Option (Option (List Char) × List Char) :=
  match cs with
  | '.' :: rest => (scanDigits? rest).map fun (digits, rest) => (some digits, rest)
  | _ => some (none, cs)

/-- The sign and digits of an exponent. -/
def scanSignedDigits? (cs : List Char) : Option (Option (Bool × List Char) × List Char) :=
  match cs with
  | '-' :: rest => (scanDigits? rest).map fun (digits, rest) => (some (true, digits), rest)
  | '+' :: rest => (scanDigits? rest).map fun (digits, rest) => (some (false, digits), rest)
  | _ => (scanDigits? cs).map fun (digits, rest) => (some (false, digits), rest)

/-- The exponent, if its letter follows. -/
def scanExponent? (cs : List Char) : Option (Option (Bool × List Char) × List Char) :=
  match cs with
  | 'e' :: rest => scanSignedDigits? rest
  | 'E' :: rest => scanSignedDigits? rest
  | _ => some (none, cs)

/-- The longest number in front of a text, and the text after it. -/
def scanNumber? (cs : List Char) : Option (NumberText × List Char) := do
  let (negative, cs) := match cs with
    | '-' :: rest => (true, rest)
    | _ => (false, cs)
  let (whole, cs) ← scanWhole? cs
  let (fraction, cs) ← scanFraction? cs
  let (exponent, cs) ← scanExponent? cs
  return (⟨negative, whole, fraction, exponent⟩, cs)

end TermStructure.Json
