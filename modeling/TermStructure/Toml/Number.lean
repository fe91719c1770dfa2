import TermStructure.Document.Tree
import TermStructure.Toml.Text

/-!
# Numbers of TOML documents

Digits may have single underscores between them. An integer is decimal with an optional sign and no
leading zeros, or hexadecimal, octal or binary without a sign; it has 64 bits. A float has a fraction
or an exponent, or is an infinity or NaN by name. A float that exceeds all doubles is malformed unless
it is negative.
-/

namespace TermStructure.Toml

/-! ## Digits -/

/-- Further digits of a run, each after at most one underscore. -/
def moreDigits (isDigit : Char → Bool) : Scan (List Char)
  | [] => some ([], [])
  | ['_'] => none
  | '_' :: c :: rest =>
    if isDigit c then (moreDigits isDigit rest).map fun (cs, rest) => (c :: cs, rest) else none
  | c :: rest =>
    if isDigit c then (moreDigits isDigit rest).map fun (cs, rest) => (c :: cs, rest)
    else some ([], c :: rest)

/-- A run of digits, without its underscores. -/
def scanDigits (isDigit : Char → Bool) : Scan (List Char)
  | [] => none
  | c :: rest =>
    if isDigit c then (moreDigits isDigit rest).map fun (cs, rest) => (c :: cs, rest) else none

/-- The digits of a decimal integer: a single zero, or a run that begins with another digit. -/
def scanWhole : Scan (List Char)
  | '0' :: rest => some (['0'], rest)
  | cs => scanDigits Char.isDigit cs

/-- Whether there is a minus sign, and the text after an optional sign. -/
def scanSign : List Char → Bool × List Char
  | '-' :: rest => (true, rest)
  | '+' :: rest => (false, rest)
  | cs => (false, cs)

/-! ## Integers -/

/-- The integer with a sign and a magnitude, if it has 64 bits. -/
def intOf? (negative : Bool) (n : Nat) : Option Number :=
  if negative then (if n ≤ 2 ^ 63 then some (.int (-(n : Int))) else none)
  else if n < 2 ^ 63 then some (.int n) else none

def isDigitOf (base : Nat) (c : Char) : Bool :=
  (Numeral.hexValue? c).any (· < base)

def valueOf (base : Nat) (digits : List Char) : Nat :=
  digits.foldl (fun n c => base * n + (Numeral.hexValue? c).getD 0) 0

/-- An integer to a base other than ten, after its mark. -/
def scanBased (base : Nat) : Scan Number := fun cs => do
  let (digits, rest) ← scanDigits (isDigitOf base) cs
  let n ← intOf? false (valueOf base digits)
  return (n, rest)

/-! ## Floats -/

/-- The digits after a point, if there is one. -/
def scanFraction : Scan (Option (List Char))
  | '.' :: rest => (scanDigits Char.isDigit rest).map fun (digits, rest) => (some digits, rest)
  | cs => some (none, cs)

/-- The sign and digits of an exponent, if there is one. -/
def scanExponent : Scan (Option Int) := fun cs =>
  let signed (cs : List Char) : Option (Option Int × List Char) :=
    let (negative, cs) := scanSign cs
    (scanDigits Char.isDigit cs).map fun (digits, rest) =>
      let e : Int := Nat.ofDigitChars 10 digits 0
      (some (if negative then -e else e), rest)
  match cs with
  | 'e' :: rest => signed rest
  | 'E' :: rest => signed rest
  | cs => some (none, cs)

/-- The float with a sign and a magnitude, if it is a double. -/
def floatOf? (negative : Bool) (x : Float) : Option Number :=
  if negative then some (.float (-x))
  else if x.isInf then none else some (.float x)

/-- A decimal integer or a float. -/
def scanDecimal : Scan Number := fun cs => do
  let (negative, cs) := scanSign cs
  let (whole, cs) ← scanWhole cs
  let (fraction, cs) ← scanFraction cs
  let (exponent, cs) ← scanExponent cs
  match fraction, exponent with
  | none, none =>
    let n ← intOf? negative (Nat.ofDigitChars 10 whole 0)
    return (n, cs)
  | _, _ =>
    let places := fraction.getD []
    let n := Nat.ofDigitChars 10 (whole ++ places) 0
    let x ← floatOf? negative (FloatText.ofDecimal n (exponent.getD 0 - places.length))
    return (x, cs)

/-- An infinity or NaN by name. -/
def scanSpecial : Scan Number := fun cs =>
  let (negative, cs) := scanSign cs
  match cs with
  | 'i' :: 'n' :: 'f' :: rest => some (.float (if negative then -(1 / 0) else 1 / 0), rest)
  | 'n' :: 'a' :: 'n' :: rest => some (.float (0 / 0), rest)
  | _ => none

def scanNumber : Scan Number
  | '0' :: 'x' :: rest => scanBased 16 rest
  | '0' :: 'o' :: rest => scanBased 8 rest
  | '0' :: 'b' :: rest => scanBased 2 rest
  | cs => (scanSpecial cs).or (scanDecimal cs)

end TermStructure.Toml
