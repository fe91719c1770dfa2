import TermStructure.Proofs.Command.Calendars
import TermStructure.Proofs.Curve.Documents
import TermStructure.Proofs.Number.Rounding

/-!
# Curve nodes of a command

A curve input is dated on the calendar in effect for its region, and its nodes become the rows of a sheet as they
are, but for the rounding of year fractions (`Command.IsNodeSheet`). Before that the document is loaded, then the
calendars of the settings and then the holiday file that is named; the first of these that fails is the error, and
there are no rows. `Command.NodesOutcome` says so without the command.
-/

namespace TermStructure

/-- The nodes of an input with any calendars that have a given one for its region. -/
def CurveInput.NodesOn (i : CurveInput) (calendar : Calendar)
    (outcome : Except StructureError (List CurveNode)) : Prop :=
  ∃ calendars : Registry, calendars.resolve i.region = calendar ∧ i.nodes calendars = outcome

/-- The other calendars have no influence. -/
theorem CurveInput.nodesOn_iff {i : CurveInput} {calendars : Registry}
    {outcome : Except StructureError (List CurveNode)} :
    i.NodesOn (calendars.resolve i.region) outcome ↔ i.nodes calendars = outcome := by
  constructor
  · rintro ⟨others, hresolve, hnodes⟩
    rw [← hnodes, nodes, nodes, hresolve]
  · intro h
    exact ⟨calendars, rfl, h⟩

namespace Command

variable {files : Files} {s : Settings} {p : Presentation} {path : String} {holidays : Option String}
  {i : CurveInput} {calendar : Calendar} {r : Except CommandError Output} {precision : Nat}
  {n : CurveNode} {ns : List CurveNode} {sheet : Sheet} {row : List Cell}

/-! ## Rows -/

/-- A row shows a node as it is, but for its year fraction, which is rounded to some places. -/
inductive IsNodeRow (precision : Nat) (n : CurveNode) : List Cell → Prop
  | intro {x : Decimal} : n.yearFraction.IsRounded precision x →
      IsNodeRow precision n [.text n.quote.instrument.name, .text n.quote.tenor.text,
        .text n.maturity.text, .decimal x, .float n.quote.rate]

/-- A sheet shows nodes in order. -/
structure IsNodeSheet (precision : Nat) (ns : List CurveNode) (sheet : Sheet) : Prop where
  title : sheet.title = "Curve Nodes"
  columns : sheet.columns = [⟨"Instrument", "instrument"⟩, ⟨"Tenor", "tenor"⟩,
    ⟨"Maturity", "maturity"⟩, ⟨"Year Fraction", "year_fraction"⟩, ⟨"Rate", "rate"⟩]
  rows : List.Forall₂ (IsNodeRow precision) ns sheet.rows

theorem isNodeRow_iff : IsNodeRow precision n row ↔
    [.text n.quote.instrument.name, .text n.quote.tenor.text, .text n.maturity.text,
      .decimal (n.yearFraction.roundPlaces precision), .float n.quote.rate] = row := by
  constructor
  · intro h
    cases h with
    | intro hx => rw [Decimal.isRounded_iff.1 hx]
  · intro h
    rw [← h]
    exact .intro (Decimal.isRounded_roundPlaces _ _)

theorem forall₂_isNodeRow_iff {rows : List (List Cell)} :
    List.Forall₂ (IsNodeRow precision) ns rows ↔ (nodeSheet precision ns).rows = rows := by
  unfold nodeSheet
  rw [← List.forall₂_eq_eq_eq, List.forall₂_map_left_iff]
  constructor
  · intro h
    exact h.imp fun n row hrow => isNodeRow_iff.1 hrow
  · intro h
    exact h.imp fun n row hrow => isNodeRow_iff.2 hrow

theorem isNodeSheet_iff : IsNodeSheet precision ns sheet ↔ sheet = nodeSheet precision ns := by
  constructor
  · intro h
    obtain ⟨htitle, hcolumns, hrows⟩ := h
    cases sheet
    simp only at htitle hcolumns hrows
    rw [htitle, hcolumns, ← forall₂_isNodeRow_iff.1 hrows]
    rfl
  · intro h
    rw [h]
    exact ⟨rfl, rfl, forall₂_isNodeRow_iff.2 rfl⟩

/-! ## Outcomes -/

/-- What comes of dating the curve input of a document. -/
inductive NodesOutcome (files : Files) (s : Settings) (p : Presentation) (path : String)
    (holidays : Option String) : Except CommandError Output → Prop
  | document {e : FileError} : files.curveInput path = .error e →
      NodesOutcome files s p path holidays (.error (.file e))
  | calendars {i : CurveInput} {e : CommandError} : files.curveInput path = .ok i →
      NoCalendars files s path i.region holidays e →
      NodesOutcome files s p path holidays (.error e)
  | undated {i : CurveInput} {calendar : Calendar} {e : StructureError} :
      files.curveInput path = .ok i → AllConfigured files s →
      InEffect files s i.region holidays calendar → i.NodesOn calendar (.error e) →
      NodesOutcome files s p path holidays (.error (.structural e))
  | dated {i : CurveInput} {calendar : Calendar} {ns : List CurveNode} {sheet : Sheet} :
      files.curveInput path = .ok i → AllConfigured files s →
      InEffect files s i.region holidays calendar → i.NodesOn calendar (.ok ns) →
      IsNodeSheet p.precision ns sheet → NodesOutcome files s p path holidays (.ok (p.sheet sheet))

theorem nodesOutcome_curveNodes (hkeys : s.KeysDistinct) :
    NodesOutcome files s p path holidays (curveNodes files s p path holidays) := by
  unfold curveNodes nodesOf
  cases hi : files.curveInput path with
  | error e => exact .document hi
  | ok i =>
    dsimp only
    cases hr : calendarsFor files s path i holidays with
    | error e => exact .calendars hi ((calendarsFor_eq_error_iff hkeys).1 hr)
    | ok r =>
      have hall := allConfigured_of_calendarsFor hr
      have heffect := inEffect_of_calendarsFor hkeys hr
      dsimp only
      cases hns : i.nodes r with
      | error e => exact .undated hi hall heffect (CurveInput.nodesOn_iff.2 hns)
      | ok ns =>
        exact .dated hi hall heffect (CurveInput.nodesOn_iff.2 hns) (isNodeSheet_iff.2 rfl)

theorem NodesOutcome.eq (hkeys : s.KeysDistinct) (h : NodesOutcome files s p path holidays r) :
    curveNodes files s p path holidays = r := by
  -- On the calendar in effect, the nodes are those of the calendars that are registered.
  have hnodes : ∀ {i calendar outcome}, AllConfigured files s →
      InEffect files s i.region holidays calendar → i.NodesOn calendar outcome →
      ∃ r, calendarsFor files s path i holidays = .ok r ∧ i.nodes r = outcome := by
    intro i calendar outcome hall heffect hon
    obtain ⟨r, hr⟩ := exists_calendarsFor hall heffect
    refine ⟨r, hr, ?_⟩
    rw [← CurveInput.nodesOn_iff, (inEffect_of_calendarsFor hkeys hr).unique hkeys heffect]
    exact hon
  unfold curveNodes nodesOf
  cases h with
  | document hi => rw [hi]
  | calendars hi he =>
    rw [hi]
    simp only [(calendarsFor_eq_error_iff hkeys).2 he]
  | undated hi hall heffect hon =>
    obtain ⟨r, hr, hns⟩ := hnodes hall heffect hon
    rw [hi]
    simp only [hr, hns]
    rfl
  | dated hi hall heffect hon hsheet =>
    obtain ⟨r, hr, hns⟩ := hnodes hall heffect hon
    rw [hi, isNodeSheet_iff.1 hsheet]
    simp only [hr, hns]
    rfl

/-! ## The command -/

/-- Settings that are loaded have distinct keys. Under such settings a curve input is dated on the calendar in
effect for its region, or the first failure on the way is the error; if the settings are good and a holiday file
that is named can be read, one calendar is in effect. Keys that differ in nothing but blanks around them are texts
of one region. -/
theorem nodes_on_calendar_in_effect :
    (∀ files config s, settings files config = .ok s → s.KeysDistinct) ∧
    (∀ files (s : Settings) p path holidays r, s.KeysDistinct →
      (perform files s p (.curveNodes path holidays) = r ↔
        NodesOutcome files s p path holidays r)) ∧
    (∀ files (s : Settings) region holidays, s.KeysDistinct → AllConfigured files s →
      HolidaysReadable files region holidays → ∃! calendar, InEffect files s region holidays calendar) ∧
    ∀ a b id, Identifier.parse a = .ok id → (Identifier.parse b = .ok id ↔
      ∃ before after : List Char, b.toList = before ++ id.text.toList ++ after ∧
        (∀ c ∈ before, Text.isBlank c = true) ∧ ∀ c ∈ after, Text.isBlank c = true) := by
  refine ⟨?_, ?_, ?_, ?_⟩
  · intro files config s h
    exact keysDistinct_settings h
  · intro files s p path holidays r hkeys
    constructor
    · intro h
      rw [← h]
      exact nodesOutcome_curveNodes hkeys
    · intro h
      exact h.eq hkeys
  · intro files s region holidays hkeys hall hnamed
    exact existsUnique_inEffect hkeys hall hnamed
  · intro a b id h
    exact Identifier.parse_eq_ok_iff_blanks h

/-- A deposit in London. -/
def londonDeposit (tenor : Tenor) : CurveInput :=
  { pairInput tenor tenor with region := some (.region "GB"), swap := .empty }

/-- Two keys of one region; only the file under the greater one holds a holiday. -/
def londonSettings : Settings where
  calendars := [(" FINANCIAL_REGION~GB", "open.txt"), ("FINANCIAL_REGION~GB", "closed.txt")]

def londonFiles (i : CurveInput) : Files where
  read path :=
    if path = "termgrid.toml" then .ok
      "[calendars]\n\" FINANCIAL_REGION~GB\" = \"open.txt\"\n\"FINANCIAL_REGION~GB\" = \"closed.txt\"\n"
    else if path = "curve.json" then .ok (Json.compact (Encode.curveInput i))
    else if path = "closed.txt" then .ok "2024-05-15"
    else .ok ""
  present _ := true

theorem curveInput_london (tenor : Tenor) :
    (londonFiles (londonDeposit tenor)).curveInput "curve.json" = .ok (londonDeposit tenor) := by
  have hregion : ∀ id ∈ (londonDeposit tenor).region, ∃ s, Identifier.parse s = .ok id := by
    rintro id ⟨⟩
    exact ⟨"FINANCIAL_REGION~GB", by decide⟩
  have hrates : ∀ q ∈ (londonDeposit tenor).cash.points ++ (londonDeposit tenor).swap.points,
      Restored Decode.float .ofFloat q.2 := by
    have hrate : Restored Decode.float .ofFloat 0.01 := by
      unfold Restored
      decide +kernel
    exact List.forall_mem_singleton.2 hrate
  have hdraft := CurveInput.restored_draft (CurveInput.isRestored_settings hregion hrates)
  have hread : (londonFiles (londonDeposit tenor)).read "curve.json" =
      .ok (Json.compact (Encode.curveInput (londonDeposit tenor))) := rfl
  have hformat : DocumentFormat.ofPath? "curve.json" = some .json := by decide
  have hbuild : (londonDeposit tenor).toDraft.build = .ok (londonDeposit tenor) := rfl
  rw [Files.curveInput, Files.document_eq _ hformat hread, hdraft]
  change (londonDeposit tenor).toDraft.build.mapError _ = _
  rw [hbuild]
  rfl

theorem holidayList_london {path : String} {ds : List Date}
    (hds : (londonFiles i).holidays path = .ok ds) (hsorted : ds.mergeSort Date.le = ds)
    (hnew : ds.eraseReps = ds) : (londonFiles i).holidayList "GB" path = .ok ⟨"GB", ds⟩ := by
  rw [Files.holidayList, hds]
  show Except.ok (HolidayList.ofDates "GB" ds) = _
  rw [HolidayList.ofDates, hsorted, hnew]

theorem holidayList_open : (londonFiles i).holidayList "GB" "open.txt" = .ok ⟨"GB", []⟩ :=
  holidayList_london rfl List.mergeSort_nil rfl

theorem holidayList_closed : (londonFiles i).holidayList "GB" "closed.txt" =
    .ok ⟨"GB", [⟨2024, 5, 15, by decide, by decide, by decide⟩]⟩ :=
  holidayList_london rfl (List.mergeSort_singleton _) rfl

theorem parse_london {c : String × String} (hc : c ∈ londonSettings.calendars) :
    Identifier.parse c.1 = .ok (.region "GB") := by
  rcases List.mem_pair.1 hc with rfl | rfl
  · decide
  · decide

theorem allConfigured_london : AllConfigured (londonFiles i) londonSettings := by
  intro c hc
  have hregion := parse_london hc
  rcases List.mem_pair.1 hc with rfl | rfl
  · exact ⟨(.region "GB", _), hregion, _, holidayList_open, rfl⟩
  · exact ⟨(.region "GB", _), hregion, _, holidayList_closed, rfl⟩

theorem lastFor_london :
    LastFor londonSettings (.region "GB") ("FINANCIAL_REGION~GB", "closed.txt") := by
  have hmem : ("FINANCIAL_REGION~GB", "closed.txt") ∈ londonSettings.calendars := List.mem_pair.2 (.inr rfl)
  refine ⟨hmem, parse_london hmem, ?_⟩
  intro d hd _
  rcases List.mem_pair.1 hd with rfl | rfl
  · decide
  · exact String.le_refl _

/-- The only node, with a given maturity. -/
def londonNode (tenor : Tenor) (d : Date) : CurveNode :=
  ⟨⟨.cash, tenor, 0.01⟩, d, DayCount.actual360.yearFraction (londonDeposit tenor).spotDate d⟩

theorem nodesOn_london {tenor : Tenor} {d : Date}
    (h : (londonDeposit tenor).maturity calendar tenor = .ok d) :
    (londonDeposit tenor).NodesOn calendar (.ok [londonNode tenor d]) := by
  have hresolve : (Registry.empty.register (.region "GB") calendar).resolve
      (londonDeposit tenor).region = calendar := Registry.resolve_register_self _ _ _
  have hnode : (londonDeposit tenor).node calendar ⟨.cash, tenor, 0.01⟩ = .ok (londonNode tenor d) := by
    rw [CurveInput.node, h]
    rfl
  have hnodes : (londonDeposit tenor).nodesOf calendar (londonDeposit tenor).legs =
      .ok [londonNode tenor d] := by
    show (londonDeposit tenor).nodesOf calendar [⟨.cash, tenor, 0.01⟩] = _
    rw [CurveInput.nodesOf, hnode]
    rfl
  refine ⟨Registry.empty.register (.region "GB") calendar, hresolve, ?_⟩
  rw [CurveInput.nodes, hresolve, hnodes]
  simp only [List.mergeSort_singleton]

theorem nodesOutcome_london {tenor : Tenor} {d : Date}
    (heffect : InEffect (londonFiles (londonDeposit tenor)) londonSettings (some (.region "GB")) holidays
      calendar)
    (hd : (londonDeposit tenor).maturity calendar tenor = .ok d) :
    NodesOutcome (londonFiles (londonDeposit tenor)) londonSettings p "curve.json" holidays
      (.ok (p.sheet (nodeSheet p.precision [londonNode tenor d]))) :=
  .dated (curveInput_london tenor) allConfigured_london heffect (nodesOn_london hd) (isNodeSheet_iff.2 rfl)

/-- The key without the blank is the greater one, so its file moves the maturity. A holiday file that is named
counts instead. -/
theorem nodes_on_calendar_in_effect_two_keys : ∃ files : Files,
    settings files none = .ok londonSettings ∧ londonSettings.KeysDistinct ∧
    Identifier.parse "FINANCIAL_REGION~GB" = .ok (.region "GB") ∧
    Identifier.parse " FINANCIAL_REGION~GB" = .ok (.region "GB") ∧
    AllConfigured files londonSettings ∧ HolidaysReadable files (some (.region "GB")) none ∧
    (∃! calendar, InEffect files londonSettings (some (.region "GB")) none calendar) ∧
    perform files londonSettings ⟨.csv, true, 2⟩ (.curveNodes "curve.json" none) =
      .ok (Presentation.sheet ⟨.csv, true, 2⟩ (nodeSheet 2
        [londonNode (.months 3) ⟨2024, 5, 16, by decide, by decide, by decide⟩])) ∧
    perform files londonSettings ⟨.csv, true, 2⟩ (.curveNodes "curve.json" (some "open.txt")) =
      .ok (Presentation.sheet ⟨.csv, true, 2⟩ (nodeSheet 2
        [londonNode (.months 3) ⟨2024, 5, 15, by decide, by decide, by decide⟩])) := by
  obtain ⟨hloaded, hnodes, hunique, htexts⟩ := nodes_on_calendar_in_effect
  have hsettings : settings (londonFiles (londonDeposit (.months 3))) none = .ok londonSettings := by
    decide +kernel
  have hkeys := hloaded _ _ _ hsettings
  have hplain : Identifier.parse "FINANCIAL_REGION~GB" = .ok (.region "GB") := by decide
  have hblank : Identifier.parse " FINANCIAL_REGION~GB" = .ok (.region "GB") :=
    (htexts _ _ _ hplain).2 ⟨[' '], [], rfl, List.forall_mem_singleton.2 rfl, nofun⟩
  have hnone : HolidaysReadable (londonFiles (londonDeposit (.months 3))) (some (.region "GB")) none := nofun
  have heffect := hunique _ _ _ _ hkeys allConfigured_london hnone
  refine ⟨_, hsettings, hkeys, hplain, hblank, allConfigured_london, hnone, heffect, ?_, ?_⟩
  · apply (hnodes _ _ _ _ _ _ hkeys).2
    exact nodesOutcome_london (.configured lastFor_london holidayList_closed) rfl
  · apply (hnodes _ _ _ _ _ _ hkeys).2
    exact nodesOutcome_london (.named holidayList_open) rfl

end Command

end TermStructure
