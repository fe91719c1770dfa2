import TermStructure.Text.Numeral

/-!
# Tenors

A tenor is an amount of days, weeks, months or years. Tenors are ordered by their approximate
length, in which a year has 365.25 days and a month is a twelfth of a year. Lengths are counted in
ten-thousandths of a day, so all of them are whole numbers. Tenors of one length, such as `12M` and
`1Y`, are ordered by unit, the shorter unit first; the order is total and tells all tenors apart.
-/

namespace TermStructure

inductive TenorUnit where
  | days
  | weeks
  | months
  | years
deriving DecidableEq, Repr

namespace TenorUnit

/-- The letter that stands for the unit. -/
def code : TenorUnit → Char
  | days => 'D'
  | weeks => 'W'
  | months => 'M'
  | years => 'Y'

/-- The unit of a letter, in either case. -/
def ofCode? (c : Char) : Option TenorUnit :=
  match c.toUpper with
  | 'D' => some days
  | 'W' => some weeks
  | 'M' => some months
  | 'Y' => some years
  | _ => none

/-- The length of the unit in ten-thousandths of a day. -/
def length : TenorUnit → Nat
  | days => 10000
  | weeks => 70000
  | months => 304375
  | years => 3652500

/-- The place of the unit among tenors of one length. -/
def rank : TenorUnit → Nat
  | days => 0
  | weeks => 1
  | months => 2
  | years => 3

theorem ofCode?_code (u : TenorUnit) : ofCode? u.code = some u := by
  cases u <;> rfl

end TenorUnit

/-- An amount of a unit. Amounts have 32 bits. -/
structure Tenor where
  amount : Nat
  unit : TenorUnit
  amount_lt : amount < 2 ^ 32 := by decide
deriving DecidableEq, Repr

namespace Tenor

def days (amount : Nat) (amount_lt : amount < 2 ^ 32 := by decide) : Tenor :=
  ⟨amount, .days, amount_lt⟩

def weeks (amount : Nat) (amount_lt : amount < 2 ^ 32 := by decide) : Tenor :=
  ⟨amount, .weeks, amount_lt⟩

def months (amount : Nat) (amount_lt : amount < 2 ^ 32 := by decide) : Tenor :=
  ⟨amount, .months, amount_lt⟩

def years (amount : Nat) (amount_lt : amount < 2 ^ 32 := by decide) : Tenor :=
  ⟨amount, .years, amount_lt⟩

def maxAmount : Nat := 2 ^ 32 - 1

/-- The tenor `0D`, the least of all. -/
def zero : Tenor := ⟨0, .days, by decide⟩

instance : Inhabited Tenor := ⟨zero⟩

/-- The tenor of an amount that has 32 bits. -/
def ofAmount? (amount : Nat) (unit : TenorUnit) : Option Tenor :=
  if h : amount < 2 ^ 32 then some ⟨amount, unit, h⟩ else none

def isZero (t : Tenor) : Bool :=
  t.amount == 0

/-- The approximate length in ten-thousandths of a day. -/
def length (t : Tenor) : Nat :=
  t.amount * t.unit.length

def sameLength (a b : Tenor) : Bool :=
  a.length == b.length

def longerThan (a b : Tenor) : Bool :=
  b.length < a.length

/-- By length, then by unit, then by amount. -/
instance : Ord Tenor where
  compare a b :=
    (compare a.length b.length).then ((compare a.unit.rank b.unit.rank).then
      (compare a.amount b.amount))

def le (a b : Tenor) : Bool :=
  (compare a b).isLE

def lt (a b : Tenor) : Bool :=
  compare a b == .lt

instance : LE Tenor := ⟨fun a b => a.le b⟩

instance : LT Tenor := ⟨fun a b => a.lt b⟩

def approximateDays (t : Tenor) : Float :=
  Float.ofNat t.length / 10000.0

def approximateYears (t : Tenor) : Float :=
  t.approximateDays / 365.25

/-- The amount followed by the letter of the unit. -/
def chars (t : Tenor) : List Char :=
  Numeral.digits t.amount ++ [t.unit.code]

/-- The text of a tenor, such as `3M`. -/
def text (t : Tenor) : String :=
  String.ofList t.chars

instance : ToString Tenor := ⟨text⟩

/-- The text of a tenor as an ISO 8601 duration, such as `P3M`. -/
def isoText (t : Tenor) : String :=
  "P" ++ t.text

end Tenor

end TermStructure
