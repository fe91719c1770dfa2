import TermStructure.Calendar.Registry

/-!
# Registered calendars

A region has the calendar that was last registered for exactly this region; other regions, and none, have
weekends only (`Registry.resolve_ofList`).
-/

namespace TermStructure.Registry

/-- The registry of some calendars that were registered in order. -/
def ofList (regs : List (Identifier × Calendar)) : Registry :=
  regs.foldl (fun r e => r.register e.1 e.2) .empty

/-- The calendar of the last registration for a region, or weekends only. -/
def lastFor (regs : List (Identifier × Calendar)) (region : Option Identifier) : Calendar :=
  (region.bind fun id => (regs.filter fun e => e.1 = id).getLast?).elim .weekendOnly Prod.snd

theorem resolve_register_self (r : Registry) (id : Identifier) (c : Calendar) :
    (r.register id c).resolve (some id) = c := by
  rw [resolve, Option.bind_some, get?_register_self, Option.getD_some]

theorem get?_foldl_register (r : Registry) (regs : List (Identifier × Calendar)) (id : Identifier) :
    (regs.foldl (fun r e => r.register e.1 e.2) r).get? id =
      (regs.filter fun e => e.1 = id).getLast?.elim (r.get? id) fun e => some e.2 := by
  induction regs generalizing r with
  | nil => rfl
  | cons e regs ih =>
    rw [List.foldl_cons, ih]
    by_cases he : e.1 = id
    · rw [List.filter_cons_of_pos (by simpa using he), List.getLast?_cons, ← he, get?_register_self]
      cases (regs.filter fun e' => e'.1 = e.1).getLast? <;> rfl
    · rw [List.filter_cons_of_neg (by simpa using he), get?_register_of_ne r e.2 (Ne.symm he)]

theorem resolve_ofList (regs : List (Identifier × Calendar)) (region : Option Identifier) :
    (ofList regs).resolve region = lastFor regs region := by
  cases region with
  | none => rfl
  | some id =>
    change ((ofList regs).get? id).getD fallback = _
    rw [ofList, get?_foldl_register, lastFor, Option.bind_some]
    cases (regs.filter fun e => e.1 = id).getLast? <;> rfl

end TermStructure.Registry
