import TermStructure.Number.Power

/-!
# Decimal numerals

Numerals are runs of ASCII digits, most significant first. `digits` writes one, `ofDigits?` reads
one back whatever its leading zeros (`ofDigits?_digits`), and `padded` writes at least a given
number of digits. `ofHex?` reads hexadecimal digits.
-/

namespace TermStructure.Numeral

/-- The digits of a number, without leading zeros. -/
def digits (n : Nat) : List Char :=
  Nat.toDigits 10 n

/-- The value of a nonempty run of digits; leading zeros are allowed. -/
def ofDigits? (cs : List Char) : Option Nat :=
  if cs ≠ [] ∧ cs.all Char.isDigit then some (Nat.ofDigitChars 10 cs 0) else none

/-- Like `ofDigits?`, with one optional leading plus sign and an upper bound. -/
def ofUnsigned? (limit : Nat) (cs : List Char) : Option Nat :=
  let body := match cs with
    | '+' :: rest => rest
    | _ => cs
  (ofDigits? body).filter (· ≤ limit)

/-- The digits of a number with zeros in front up to the given width. -/
def paddedDigits (width n : Nat) : List Char :=
  let ds := digits n
  List.replicate (width - ds.length) '0' ++ ds

def padded (width n : Nat) : String :=
  String.ofList (paddedDigits width n)

/-- The value of a hexadecimal digit in either case. -/
def hexValue? (c : Char) : Option Nat :=
  if '0' ≤ c ∧ c ≤ '9' then some (c.toNat - '0'.toNat)
  else if 'a' ≤ c ∧ c ≤ 'f' then some (c.toNat - 'a'.toNat + 10)
  else if 'A' ≤ c ∧ c ≤ 'F' then some (c.toNat - 'A'.toNat + 10)
  else none

/-- The value of a run of hexadecimal digits. -/
def ofHex? (cs : List Char) : Option Nat :=
  cs.foldl (fun n? c => n?.bind fun n => (hexValue? c).map fun d => 16 * n + d) (some 0)

theorem ofDigits?_digits (n : Nat) : ofDigits? (digits n) = some n := by
  have h : (digits n).all Char.isDigit := by
    simp only [List.all_eq_true]
    exact fun c hc => Nat.isDigit_of_mem_toDigits (by decide) (by decide) hc
  have h' : digits n ≠ [] := Nat.toDigits_ne_nil
  rw [ofDigits?, if_pos ⟨h', h⟩, digits, Nat.ofDigitChars_ten_toDigits]

end TermStructure.Numeral
