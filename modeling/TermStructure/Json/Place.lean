import TermStructure.Text.Numeral

/-!
# Places in JSON texts

A message about a JSON text ends with the place that it is about: ` at line 3 column 7`. A message that
already ends so says its place itself, and what it says is the rest.
-/

namespace TermStructure.Json

/-- A text before the digits at its end, and these digits. -/
def splitDigits (cs : List Char) : List Char × List Char :=
  let (digits, rest) := cs.reverse.span Char.isDigit
  (rest.reverse, digits.reverse)

/-- Whether digits are a number of lines or columns: there is at least one, and it fits 64 bits. -/
def isCount (digits : List Char) : Bool :=
  (Numeral.ofDigits? digits).any (· < 2 ^ 64)

/-- A text before a number at its end that follows some words. -/
def beforeNumber? (words : List Char) (cs : List Char) : Option (List Char) :=
  let (head, digits) := splitDigits cs
  if isCount digits then words.isSuffixOf? head else none

/-- A message without the place at its end. -/
def withoutPlace (message : List Char) : List Char :=
  let rest :=
    (beforeNumber? " column ".toList message).bind fun head => beforeNumber? " at line ".toList head
  rest.getD message

end TermStructure.Json
