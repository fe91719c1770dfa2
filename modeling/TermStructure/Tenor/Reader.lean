import TermStructure.Error
import TermStructure.Text.Blank

/-!
# Reading tenors

A tenor text is, between blanks, an optional letter `P` in either case, an amount and the letter of
a unit. The amount is a numeral of 32 bits with an optional plus sign.
-/

namespace TermStructure.Tenor

/-- The text after one optional leading `P`. -/
def dropPeriodMark : List Char → List Char
  | 'P' :: rest => rest
  | 'p' :: rest => rest
  | cs => cs

/-- The amount in front of the letter of the unit. -/
def readAmount (unit : TenorUnit) (cs : List Char) : Except TenorFault Tenor :=
  if cs = [] then .error .missingAmount
  else match (Numeral.ofUnsigned? maxAmount cs).bind (ofAmount? · unit) with
    | some t => .ok t
    | none => .error (.badAmount (String.ofList cs))

/-- Reads a tenor from characters without blanks around them. The unit is looked at first. -/
def read (cs : List Char) : Except TenorFault Tenor :=
  let body := dropPeriodMark cs
  match body.getLast? with
  | none => .error .empty
  | some code =>
    match TenorUnit.ofCode? code with
    | none => .error (.unknownUnit code)
    | some unit => readAmount unit body.dropLast

def parse (s : String) : Except ValueError Tenor :=
  (read (Text.trim s.toList)).mapError (.invalidTenor s)

end TermStructure.Tenor
