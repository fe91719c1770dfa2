import TermStructure.Error
import TermStructure.Text.Blank
import TermStructure.Text.Capital

/-!
# Currencies

The supported currencies, by their three-letter codes. Codes are read without regard to case and to
blanks around them.
-/

namespace TermStructure

inductive Currency where
  | usd
  | eur
  | gbp
  | jpy
  | chf
  | cad
  | aud
  | nzd
  | sek
  | nok
  | dkk
  | hkd
  | sgd
deriving DecidableEq, Repr

namespace Currency

/-- All currencies, in the order of listings. -/
def all : List Currency :=
  [usd, eur, gbp, jpy, chf, cad, aud, nzd, sek, nok, dkk, hkd, sgd]

def code : Currency → String
  | usd => "USD"
  | eur => "EUR"
  | gbp => "GBP"
  | jpy => "JPY"
  | chf => "CHF"
  | cad => "CAD"
  | aud => "AUD"
  | nzd => "NZD"
  | sek => "SEK"
  | nok => "NOK"
  | dkk => "DKK"
  | hkd => "HKD"
  | sgd => "SGD"

/-- The currency with exactly the given code. -/
def ofCode? (code : String) : Option Currency :=
  all.find? (·.code == code)

/-- Reads a currency code in any case, with blanks around it. -/
def parse (s : String) : Except ValueError Currency :=
  match ofCode? (String.ofList (Text.capitals (Text.trim s.toList))) with
  | some c => .ok c
  | none => .error (.unknownCurrency s)

instance : ToString Currency := ⟨code⟩

theorem mem_all (c : Currency) : c ∈ all := by
  cases c <;> decide

theorem ofCode?_code (c : Currency) : ofCode? c.code = some c := by
  cases c <;> decide

end Currency

end TermStructure
