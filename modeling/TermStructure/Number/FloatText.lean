import TermStructure.Number.Shortest
import TermStructure.Text.Numeral

/-!
# Texts of doubles

A double is written with the fewest digits that read back. What else is to decide, each output
format decides in a `FloatLayout`: from where on the notation is scientific, whether whole numbers
show a point, whether positive exponents show a sign, and how infinities and NaN are spelled. The
three layouts are `json`, `csv` and `plain`. `FloatText.read?` reads a number back.
-/

namespace TermStructure

/-- The decisions of a format about the texts of doubles. A magnitude `0.d₁d₂… * 10 ^ k` is written
positionally if `k` is above `positionalAbove` and no more than `positionalTo`. -/
structure FloatLayout where
  positional : Int → Bool
  pointAlways : Bool
  exponentSign : Bool
  tie : Shortest.Tie
  nan : String
  infinity : String

namespace FloatLayout

/-- The numbers of JSON documents and of messages about them. -/
def json : FloatLayout where
  positional k := -5 < k && k ≤ 16
  pointAlways := true
  exponentSign := true
  tie := .even
  nan := "NaN"
  infinity := "inf"

/-- The numbers of comma separated output. -/
def csv : FloatLayout where
  positional k := -5 < k && k ≤ 16
  pointAlways := true
  exponentSign := false
  tie := .even
  nan := "NaN"
  infinity := "inf"

/-- The numbers of text tables: never scientific, and whole numbers without a point. -/
def plain : FloatLayout where
  positional _ := true
  pointAlways := false
  exponentSign := false
  tie := .up
  nan := "NaN"
  infinity := "inf"

/-- The numbers of messages about configuration documents: plain, with a point always. -/
def pointed : FloatLayout :=
  { plain with pointAlways := true }

end FloatLayout

namespace FloatText

/-- Digits with the point after the first `k`: zeros are put in where the digits do not reach. -/
def positionalText (layout : FloatLayout) (digits : List Char) (k : Int) : List Char :=
  if k ≤ 0 then
    '0' :: '.' :: List.replicate (-k).toNat '0' ++ digits
  else if digits.length ≤ k.toNat then
    digits ++ List.replicate (k.toNat - digits.length) '0' ++
      (if layout.pointAlways then ['.', '0'] else [])
  else
    digits.take k.toNat ++ '.' :: digits.drop k.toNat

/-- One digit, the others after a point, and the exponent. -/
def scientificText (layout : FloatLayout) (digits : List Char) (k : Int) : List Char :=
  let e := k - 1
  let mantissa := match digits with
    | d :: rest => if rest = [] then [d] else d :: '.' :: rest
    | [] => []
  let sign := if e < 0 then ['-'] else if layout.exponentSign then ['+'] else []
  mantissa ++ 'e' :: sign ++ Numeral.digits e.natAbs

def magnitudeText (layout : FloatLayout) (p : Shortest.Parts) : List Char :=
  if p.significand = 0 then '0' :: (if layout.pointAlways then ['.', '0'] else [])
  else
    let (n, e) := Shortest.ofParts p layout.tie
    let digits := Numeral.digits n
    let k := (digits.length : Int) + e
    if layout.positional k then positionalText layout digits k else scientificText layout digits k

/-- The text of a double. A zero keeps its sign, NaN has none. -/
def text (layout : FloatLayout) (x : Float) : String :=
  let bits := x.toBits.toNat
  let sign := if 2 ^ 63 ≤ bits then "-" else ""
  match Shortest.Parts.ofBits? (bits % 2 ^ 63) with
  | some p => sign ++ String.ofList (magnitudeText layout p)
  | none => if x.isNaN then layout.nan else sign ++ layout.infinity

/-! ## Reading -/

/-- The double nearest to `n * 10 ^ e`. Exponents far outside the range of doubles are not
expanded. -/
def ofDecimal (n : Nat) (e : Int) : Float :=
  let top := (Shortest.width n : Int) + e
  if n = 0 ∨ top < -400 then 0
  else if 400 < top then 1 / 0
  else Float.ofScientific n (e < 0) e.natAbs

/-- The value of an optionally signed numeral. -/
def readExponent? (cs : List Char) : Option Int :=
  match cs with
  | '-' :: rest => (Numeral.ofDigits? rest).map fun n => -(n : Int)
  | '+' :: rest => (Numeral.ofDigits? rest).map Int.ofNat
  | _ => (Numeral.ofDigits? cs).map Int.ofNat

/-- The value of a number without sign: digits, a point and digits, an exponent. Digits may lack on
one side of the point. -/
def readMagnitude? (cs : List Char) : Option Float :=
  let whole := cs.takeWhile Char.isDigit
  let rest := cs.dropWhile Char.isDigit
  let (places, rest) := match rest with
    | '.' :: more => (more.takeWhile Char.isDigit, more.dropWhile Char.isDigit)
    | _ => ([], rest)
  let exponent? := match rest with
    | [] => some 0
    | 'e' :: more => readExponent? more
    | 'E' :: more => readExponent? more
    | _ => none
  match Numeral.ofDigits? (whole ++ places), exponent? with
  | some n, some e => some (ofDecimal n (e - places.length))
  | _, _ => none

/-- Reads a number, an infinity or `nan`, with an optional sign. Words may be in any case. -/
def read? (s : String) : Option Float :=
  let unsigned? (cs : List Char) : Option Float :=
    match String.ofList (cs.map Char.toLower) with
    | "inf" | "infinity" => some (1 / 0)
    | "nan" => some (0 / 0)
    | _ => readMagnitude? cs
  match s.toList with
  | '-' :: rest => (unsigned? rest).map fun x => -x
  | '+' :: rest => unsigned? rest
  | cs => unsigned? cs

end FloatText

end TermStructure
