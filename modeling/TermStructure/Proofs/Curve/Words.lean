import TermStructure.Proofs.Calendar.Adjust
import TermStructure.Proofs.Curve.Nodes
import TermStructure.Proofs.DayCount.Words

/-!
# Curve nodes in machine words

The nodes of a curve input computed in machine words are its nodes (`Words.nodes_eq`): whoever dates quotes
gets nodes or an error that says why, and no step overflows. So of all operations on dates only the bare
addition of days can stop (`Words.arithmetic_in_words`).
-/

namespace TermStructure

namespace Words

variable {i : CurveInput} {calendar : Calendar}

/-! ## Nodes -/

/-- The node of a quote. Adjustment has only checked steps of one day, so it is done as it is. -/
def node (i : CurveInput) (calendar : Calendar) (q : Quote) :
    Option (Except StructureError CurveNode) := do
  let moved ← addTenor i.spotDate q.tenor
  match moved.bind fun d => calendar.adjust d i.convention with
  | .error v => return .error (.value v)
  | .ok m =>
    let x ← yearFraction (i.dayCountOf q.instrument) i.spotDate m
    return .ok ⟨q, m, x⟩

/-- The nodes of some quotes in order, up to the first error. -/
def nodesOf (i : CurveInput) (calendar : Calendar) :
    List Quote → Option (Except StructureError (List CurveNode))
  | [] => some (.ok [])
  | q :: rest => do
    match ← node i calendar q with
    | .error e => return .error e
    | .ok n => (nodesOf i calendar rest).map fun ns => ns.map (n :: ·)

def nodes (i : CurveInput) (calendars : Registry) : Option (Except StructureError (List CurveNode)) :=
  (nodesOf i (calendars.resolve i.region) i.legs).map fun ns =>
    ns.map fun ns => ns.mergeSort fun a b => a.quote.tenorLe b.quote

theorem node_eq (q : Quote) : node i calendar q = some (i.node calendar q) := by
  have hmaturity : (i.spotDate.addTenor q.tenor).bind (fun d => calendar.adjust d i.convention) =
      i.maturity calendar q.tenor := by
    rw [CurveInput.maturity]
    cases i.spotDate.addTenor q.tenor <;> rfl
  rw [node, bind_of_eq (addTenor_eq i.spotDate q.tenor), hmaturity, CurveInput.node]
  cases i.maturity calendar q.tenor with
  | error v => rfl
  | ok m => exact bind_of_eq (yearFraction_eq (i.dayCountOf q.instrument) i.spotDate m)

theorem nodesOf_eq (qs : List Quote) : nodesOf i calendar qs = some (i.nodesOf calendar qs) := by
  induction qs with
  | nil => rfl
  | cons q qs ih =>
    rw [nodesOf, bind_of_eq (node_eq q), CurveInput.nodesOf]
    cases i.node calendar q with
    | error e => rfl
    | ok n =>
      simp only [ih, Option.map_some]
      cases i.nodesOf calendar qs <;> rfl

theorem nodes_eq (i : CurveInput) (calendars : Registry) :
    nodes i calendars = some (i.nodes calendars) := by
  rw [nodes, nodesOf_eq, CurveInput.nodes]
  cases i.nodesOf (calendars.resolve i.region) i.legs <;> rfl

/-! ## All operations -/

/-- The errors of operations on dates, by their kinds. -/
structure TypedErrors : Prop where
  ofYmd : ∀ year month day v, Date.ofYmd year month day = .error v →
    v = .invalidDate (.noSuchDay year month day)
  addMonths : ∀ (d : Date) n v, d.addMonths n = .error v → ∃ fault, v = .invalidDate fault
  addTenor : ∀ (d : Date) t v, d.addTenor t = .error v → ∃ fault, v = .invalidDate fault
  adjust : ∀ (c : Calendar) d convention v, c.adjust d convention = .error v →
    ∃ fault, v = .calendar fault
  nodes : ∀ (i : CurveInput) calendars e, i.nodes calendars = .error e → ∃ v, e = .value v

theorem typedErrors : TypedErrors where
  ofYmd year month day v h := by
    rw [Date.ofYmd] at h
    split at h
    · simp at h
    · exact (Except.error.inj h).symm
  addMonths d n v := Date.exists_fault_of_addMonths
  addTenor d t v := Date.exists_fault_of_addTenor
  adjust c d convention v := Calendar.exists_fault_of_adjust
  nodes i calendars e h := by
    obtain ⟨v, hv, -⟩ := CurveInput.nodes_eq_error_iff.1 h
    exact ⟨v, hv⟩

/-- In machine words no operation on dates overflows or stops, and each gives what it gives over all
integers: a date, a count, a year fraction, nodes, or an error of its kind. Only the bare addition of days
can stop. -/
theorem arithmetic_in_words :
    (∀ year month day r, Date.ofYmd year month day = .ok r ↔
      r.year = year ∧ r.month = month ∧ r.day = day) ∧
    (∀ (d r : Date) n, d.addDays? n = some r ↔ r.dayNumber = d.dayNumber + n) ∧
    (∀ d n, addMonths d n = some (d.addMonths n)) ∧
    (∀ d t, addTenor d t = some (d.addTenor t)) ∧
    (∀ d, endOfMonth d = some d.endOfMonth ∧ 28 ≤ d.daysInMonth ∧ d.daysInMonth ≤ 31) ∧
    (∀ a b, daysBetween a b = some (a.daysBetween b)) ∧
    (∀ c a b, days c a b = some (c.days a b) ∧ yearFraction c a b = some (c.yearFraction a b)) ∧
    (∀ i calendars, nodes i calendars = some (i.nodes calendars)) ∧
    TypedErrors ∧
    addDays Date.last 1 = none := by
  refine ⟨fun year month day r => Date.ofYmd_eq_ok_iff, fun d r n => Date.addDays?_eq_some_iff,
    addMonths_eq, addTenor_eq, fun d => ?_, daysBetween_eq, fun c a b => ?_, nodes_eq, typedErrors, addDays_last⟩
  · exact ⟨endOfMonth_eq d, Civil.le_daysInMonth d.year d.month, Civil.daysInMonth_le d.year d.month⟩
  · exact ⟨days_eq c a b, yearFraction_eq c a b⟩

/-- At the ends of the supported years: the last day is the end of its month, moves beyond it are errors of
their kinds, and all days are counted. -/
theorem arithmetic_in_words_extremes :
    endOfMonth Date.last = some Date.last ∧
    addMonths Date.last 1 = some (.error (.invalidDate (.noSuchDay 262143 1 31))) ∧
    addMonths Date.last (2 ^ 31 - 1) =
      some (.error (.invalidDate (.monthsOverflow Date.last (2 ^ 31 - 1)))) ∧
    addTenor Date.first (.years 4294967295) =
      some (.error (.invalidDate (.tenorOverflow Date.first (.years 4294967295)))) ∧
    days .thirty360US Date.first Date.last = some 188742960 ∧
    days .actualActual Date.first Date.last = some 191491528 ∧
    yearFraction .actualActual Date.first Date.last =
      some (DayCount.actualActual.yearFraction Date.first Date.last) := by
  obtain ⟨-, -, hmonths, htenor, hend, -, hdays, -⟩ := arithmetic_in_words
  refine ⟨(hend _).1, (hmonths _ _).trans ?_, (hmonths _ _).trans ?_, (htenor _ _).trans ?_,
    (hdays _ _ _).1.trans ?_, (hdays _ _ _).1.trans ?_, (hdays _ _ _).2⟩
  all_goals decide

end Words

end TermStructure
