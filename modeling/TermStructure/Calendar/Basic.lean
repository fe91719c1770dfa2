import TermStructure.Error

/-!
# Calendars

A calendar tells business days from other days. The calendar `weekendOnly` closes on Saturdays and
Sundays; a `HolidayList` adds a set of dates.
-/

namespace TermStructure

/-- A named set of business days. -/
structure Calendar where
  name : String
  isBusinessDay : Date → Bool

namespace Calendar

/-- Every day but Saturdays and Sundays is a business day. -/
def weekendOnly : Calendar where
  name := "Weekend Only"
  isBusinessDay d := !d.isWeekend

def isHoliday (c : Calendar) (d : Date) : Bool :=
  !c.isBusinessDay d

end Calendar

/-- A named set of holidays: the dates are ascending and distinct. -/
structure HolidayList where
  name : String
  dates : List Date

namespace HolidayList

/-- The set of some dates, in any order and with repetitions. -/
def ofDates (name : String) (dates : List Date) : HolidayList :=
  ⟨name, (dates.mergeSort Date.le).eraseReps⟩

def count (h : HolidayList) : Nat :=
  h.dates.length

/-- The calendar that is closed on weekends and holidays. -/
def calendar (h : HolidayList) : Calendar where
  name := h.name
  isBusinessDay d := !d.isWeekend && !h.dates.contains d

end HolidayList

end TermStructure
