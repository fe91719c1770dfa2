import TermStructure.Calendar.Basic
import TermStructure.Identifier
import TermStructure.Text.Quoted

/-!
# Calendars by region

A registry holds one calendar for each of some regions. A region that is absent or not registered
falls back to weekends only.
-/

namespace TermStructure

/-- Calendars by region; no region occurs twice. -/
structure Registry where
  entries : List (Identifier × Calendar)

namespace Registry

def empty : Registry := ⟨[]⟩

/-- The calendar of unknown regions. -/
def fallback : Calendar := Calendar.weekendOnly

/-- Puts a calendar in the place of its region, or at the end. -/
def place (region : Identifier) (calendar : Calendar) :
    List (Identifier × Calendar) → List (Identifier × Calendar)
  | [] => [(region, calendar)]
  | e :: rest =>
    if e.1 = region then (region, calendar) :: rest else e :: place region calendar rest

/-- Registers a calendar for a region, in place of an earlier one. -/
def register (r : Registry) (region : Identifier) (calendar : Calendar) : Registry :=
  ⟨place region calendar r.entries⟩

def get? (r : Registry) (region : Identifier) : Option Calendar :=
  (r.entries.find? (·.1 == region)).map (·.2)

/-- The calendar for a region, if any: the registered one or else the fallback. -/
def resolve (r : Registry) (region : Option Identifier) : Calendar :=
  (region.bind r.get?).getD fallback

def size (r : Registry) : Nat :=
  r.entries.length

/-- A description for diagnosis: the regions and the name of the fallback. -/
def describe (r : Registry) : String :=
  let region (id : Identifier) :=
    "ExternalId \x7b scheme: " ++ Text.quoted id.scheme ++ ", value: " ++ Text.quoted id.value ++
      " \x7d"
  "CalendarRegistry \x7b regions: [" ++ ", ".intercalate (r.entries.map fun e => region e.1) ++
    "], fallback: " ++ Text.quoted fallback.name ++ " \x7d"

theorem get?_register_self (r : Registry) (region : Identifier) (c : Calendar) :
    (r.register region c).get? region = some c := by
  obtain ⟨es⟩ := r
  simp only [register, get?]
  induction es with
  | nil => simp [place]
  | cons e es ih =>
    by_cases he : e.1 = region
    · simp [place, he]
    · rw [place, if_neg he, List.find?_cons_of_neg (by simpa using he)]
      exact ih

theorem get?_register_of_ne (r : Registry) {region other : Identifier} (c : Calendar)
    (h : other ≠ region) : (r.register region c).get? other = r.get? other := by
  obtain ⟨es⟩ := r
  have hne : (region == other) = false := by simpa using fun e => h e.symm
  simp only [register, get?]
  induction es with
  | nil => simp [place, hne]
  | cons e es ih =>
    by_cases he : e.1 = region
    · simp [place, he, hne]
    · rw [place, if_neg he, List.find?_cons, List.find?_cons]
      split
      · rfl
      · exact ih

end Registry

end TermStructure
