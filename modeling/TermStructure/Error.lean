import TermStructure.Date.Basic
import TermStructure.Tenor.Basic

/-!
# Errors of the basic values

Why a text is not a tenor, a date, a currency, a day count, a business day convention or an
identifier, and why a date cannot be moved. Each error is a cause; `message` words it.
-/

namespace TermStructure

/-- Why a text is not a tenor. -/
inductive TenorFault where
  | empty
  | unknownUnit (code : Char)
  | missingAmount
  | badAmount (digits : String)
deriving DecidableEq, Repr

def TenorFault.message : TenorFault → String
  | empty => "empty tenor"
  | unknownUnit code => "unknown unit '" ++ String.singleton code ++ "'"
  | missingAmount => "missing amount"
  | badAmount digits => "invalid amount '" ++ digits ++ "'"

/-- Why there is no such date. -/
inductive DateFault where
  | noSuchDay (year : Int) (month day : Nat)
  | unreadable (input : String)
  | monthsOverflow (date : Date) (months : Int)
  | tenorOverflow (date : Date) (tenor : Tenor)
  | monthsOutOfRange (months : Nat)
deriving DecidableEq, Repr

def DateFault.message : DateFault → String
  | noSuchDay year month day =>
    toString year ++ "-" ++ Numeral.padded 2 month ++ "-" ++ Numeral.padded 2 day
  | unreadable input => "Cannot parse: " ++ input
  | monthsOverflow date months => date.text ++ " + " ++ toString months ++ " months overflows"
  | tenorOverflow date tenor => date.text ++ " + " ++ tenor.text ++ " overflows"
  | monthsOutOfRange months => toString months ++ " months out of range"

/-- Why no business day was found. -/
inductive CalendarFault where
  | leavesRange (date : Date) (calendar : String)
  | noBusinessDay (days : Nat) (date : Date) (calendar : String)
deriving DecidableEq, Repr

def CalendarFault.message : CalendarFault → String
  | leavesRange date calendar =>
    "rolling " ++ date.text ++ " in calendar '" ++ calendar ++ "' leaves the supported date range"
  | noBusinessDay days date calendar =>
    "no business day within " ++ toString days ++ " days of " ++ date.text ++ " in calendar '" ++
      calendar ++ "'"

/-- An error of the basic values. -/
inductive ValueError where
  | invalidDate (fault : DateFault)
  | invalidTenor (input : String) (fault : TenorFault)
  | unknownCurrency (code : String)
  | unknownDayCount (name : String)
  | unknownConvention (name : String)
  | invalidIdentifier (input : String)
  | calendar (fault : CalendarFault)
deriving DecidableEq, Repr

def ValueError.message : ValueError → String
  | invalidDate fault => "Invalid date: " ++ fault.message
  | invalidTenor input fault => "Invalid tenor '" ++ input ++ "': " ++ fault.message
  | unknownCurrency code => "Unknown currency code: " ++ code
  | unknownDayCount name => "Unknown day count convention: " ++ name
  | unknownConvention name => "Unknown business day convention: " ++ name
  | invalidIdentifier input => "Invalid external id '" ++ input ++ "': expected SCHEME~VALUE"
  | calendar fault => "Calendar error: " ++ fault.message

end TermStructure
