import TermStructure.Calendar.Basic
import TermStructure.Date.Shift
import TermStructure.Text.Blank
import TermStructure.Text.Capital

/-!
# Business day conventions

A convention says how a date that is no business day is adjusted: to the next business day or to the
one before, day by day. The modified conventions turn round where that crosses the end of the month.
The search gives up after a year, or where it leaves the supported dates.
-/

namespace TermStructure

inductive Convention where
  | unadjusted
  | following
  | modifiedFollowing
  | preceding
  | modifiedPreceding
deriving DecidableEq, Repr

namespace Convention

/-- All conventions, in the order of listings. -/
def all : List Convention :=
  [unadjusted, following, modifiedFollowing, preceding, modifiedPreceding]

/-! ## Names -/

def text : Convention → String
  | unadjusted => "Unadjusted"
  | following => "Following"
  | modifiedFollowing => "Modified Following"
  | preceding => "Preceding"
  | modifiedPreceding => "Modified Preceding"

instance : ToString Convention := ⟨text⟩

def documentName : Convention → String
  | unadjusted => "Unadjusted"
  | following => "Following"
  | modifiedFollowing => "ModifiedFollowing"
  | preceding => "Preceding"
  | modifiedPreceding => "ModifiedPreceding"

/-- The names by which a convention is known, in capitals and without separators. -/
def aliases : Convention → List String
  | unadjusted => ["UNADJUSTED", "NONE"]
  | following => ["FOLLOWING", "F"]
  | modifiedFollowing => ["MODIFIEDFOLLOWING", "MF"]
  | preceding => ["PRECEDING", "P"]
  | modifiedPreceding => ["MODIFIEDPRECEDING", "MP"]

/-- The convention with exactly the given name in documents. -/
def ofDocumentName? (name : String) : Option Convention :=
  all.find? (·.documentName == name)

/-- Reads a name in any case. Blanks, underscores and hyphens do not count, wherever they stand. -/
def parse (s : String) : Except ValueError Convention :=
  let cs := s.toList.filter fun c => !Text.isBlank c && c != '_' && c != '-'
  match all.find? (·.aliases.contains (String.ofList (Text.capitals cs))) with
  | some c => .ok c
  | none => .error (.unknownConvention s)

instance : Inhabited Convention := ⟨following⟩

theorem ofDocumentName?_documentName (c : Convention) :
    ofDocumentName? c.documentName = some c := by
  cases c <;> decide

end Convention

/-! ## Adjustment -/

namespace Calendar

/-- The number of days that a search looks at. -/
def searchDays : Nat := 366

/-- Looks for a business day from `d` on, in steps of one day forwards or backwards. `origin` is the
date that the search started from. -/
def rollFrom (c : Calendar) (step : Int) (origin d : Date) : Nat → Except ValueError Date
  | 0 => .error (.calendar (.noBusinessDay searchDays origin c.name))
  | fuel + 1 =>
    if c.isBusinessDay d then .ok d
    else match d.addDays? step with
      | some next => rollFrom c step origin next fuel
      | none => .error (.calendar (.leavesRange origin c.name))

/-- The first business day from `d` on, in steps of one day forwards or backwards. -/
def roll (c : Calendar) (step : Int) (d : Date) : Except ValueError Date :=
  c.rollFrom step d d searchDays

/-- Like `roll`, but in the other direction if the month changes. -/
def rollModified (c : Calendar) (step : Int) (d : Date) : Except ValueError Date :=
  match c.roll step d with
  | .ok r => if r.month ≠ d.month then c.roll (-step) d else .ok r
  | .error e => .error e

/-- Adjusts a date. Business days stay as they are. -/
def adjust (c : Calendar) (d : Date) (convention : Convention) : Except ValueError Date :=
  if c.isBusinessDay d then .ok d
  else match convention with
    | .unadjusted => .ok d
    | .following => c.roll 1 d
    | .modifiedFollowing => c.rollModified 1 d
    | .preceding => c.roll (-1) d
    | .modifiedPreceding => c.rollModified (-1) d

end Calendar

end TermStructure
