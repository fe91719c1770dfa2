import TermStructure.Proofs.Calendar.Registry
import TermStructure.Proofs.Command.Settings
import TermStructure.Proofs.FirstOf
import TermStructure.Proofs.Identifier
import TermStructure.Proofs.Tenor.Grammar

/-!
# The calendar of a command

The settings register a calendar for each of their entries in the order of the keys, and a holiday file that is
named for the command registers one more. Later registrations replace earlier ones, also where two keys are
texts of one region. What is left for a region is the calendar in effect (`Command.InEffect`), and there is just
one (`Command.existsUnique_inEffect`). A single entry that is no good spoils all registrations: the first such
entry in the order of the keys is the error (`Command.configuredCalendars_eq_error_iff`).
-/

namespace TermStructure

/-! ## Lists element by element -/

section

universe u v

variable {α : Type u} {β : Type v} {R : α → β → Prop} {as : List α} {before after : List β} {b : β}

theorem exists_split_of_forall₂ (h : List.Forall₂ R as (before ++ b :: after)) :
    ∃ as₁ a as₂, as = as₁ ++ a :: as₂ ∧ R a b ∧ List.Forall₂ R as₂ after := by
  induction before generalizing as with
  | nil =>
    obtain ⟨a, as₂, ha, hafter, rfl⟩ := List.forall₂_cons_right_iff.1 h
    exact ⟨[], a, as₂, rfl, ha, hafter⟩
  | cons c before ih =>
    obtain ⟨d, as', hd, hrest, rfl⟩ := List.forall₂_cons_right_iff.1 h
    obtain ⟨as₁, a, as₂, rfl, ha, hafter⟩ := ih hrest
    exact ⟨d :: as₁, a, as₂, rfl, ha, hafter⟩

theorem exists_mem_of_forall₂ {bs : List β} (h : List.Forall₂ R as bs) :
    ∀ a ∈ as, ∃ b ∈ bs, R a b := by
  induction h with
  | nil => exact nofun
  | cons hab _ ih =>
    intro a ha
    rcases List.mem_cons.1 ha with rfl | ha
    · exact ⟨_, List.mem_cons_self, hab⟩
    · obtain ⟨b, hb, hab⟩ := ih a ha
      exact ⟨b, List.mem_cons_of_mem _ hb, hab⟩

theorem exists_split_of_getLast?_filter {p : β → Bool} {l : List β}
    (h : (l.filter p).getLast? = some b) :
    ∃ before after, l = before ++ b :: after ∧ p b = true ∧ ∀ c ∈ after, ¬ p c = true := by
  obtain ⟨init, hinit⟩ := List.getLast?_eq_some_iff.1 h
  obtain ⟨l₁, l₂, rfl, -, hlast⟩ := List.filter_eq_append_iff.1 hinit
  obtain ⟨skipped, after, rfl, -, hb, hafter⟩ := List.filter_eq_cons_iff.1 hlast
  refine ⟨l₁ ++ skipped, after, by rw [List.append_assoc], hb, ?_⟩
  exact List.filter_eq_nil_iff.1 hafter

end

/-! ## Texts of one region -/

/-- If one text is read as an identifier, then the texts read as the same are those that differ from its own in
nothing but blanks around it. -/
theorem Identifier.parse_eq_ok_iff_blanks {a b : String} {id : Identifier} (h : parse a = .ok id) :
    parse b = .ok id ↔ ∃ before after : List Char, b.toList = before ++ id.text.toList ++ after ∧
      (∀ c ∈ before, Text.isBlank c = true) ∧ ∀ c ∈ after, Text.isBlank c = true := by
  obtain ⟨htext, hparts⟩ := parse_eq_ok_iff.1 h
  constructor
  · intro hb
    rw [text_of_parse hb]
    exact Text.exists_trim b.toList
  · rintro ⟨before, after, heq, hbefore, hafter⟩
    refine parse_eq_ok_iff.2 ⟨?_, hparts⟩
    rw [heq, Text.trim_append hbefore hafter, ← htext, Text.trim_trim]

/-! ## Entries of the settings -/

namespace Command

variable {files : Files} {s : Settings} {c : String × String} {e : CommandError} {r : Registry}
  {region : Option Identifier} {id : Identifier} {holidays : Option String} {i : CurveInput}
  {path : String} {calendar calendar' : Calendar}

/-- An entry of the settings gives a calendar to a region: its key is a text of the region, and its file lists the
holidays of the calendar. -/
structure Configures (files : Files) (c : String × String) (reg : Identifier × Calendar) : Prop where
  region : Identifier.parse c.1 = .ok reg.1
  calendar : ∃ h, files.holidayList reg.1.value c.2 = .ok h ∧ h.calendar = reg.2

/-- An entry gives a calendar to some region. -/
def Configured (files : Files) (c : String × String) : Prop :=
  ∃ reg, Configures files c reg

/-- What is wrong with an entry: its key, or else its file. -/
inductive Misconfigured (files : Files) (c : String × String) : CommandError → Prop
  | key {e : ValueError} : Identifier.parse c.1 = .error e → Misconfigured files c (.value e)
  | file {region : Identifier} {e : FileError} : Identifier.parse c.1 = .ok region →
      files.holidayList region.value c.2 = .error e → Misconfigured files c (.file e)

/-- The calendar of an entry with its region. -/
def registration (files : Files) (c : String × String) :
    Except CommandError (Identifier × Calendar) :=
  match Identifier.parse c.1 with
  | .error e => .error (.value e)
  | .ok region =>
    match files.holidayList region.value c.2 with
    | .error e => .error (.file e)
    | .ok h => .ok (region, h.calendar)

theorem registration_eq_ok_iff {reg : Identifier × Calendar} :
    registration files c = .ok reg ↔ Configures files c reg := by
  unfold registration
  constructor
  · intro h
    split at h
    · exact nomatch h
    next hregion =>
      split at h
      · exact nomatch h
      next list hlist =>
        obtain rfl := Except.ok.inj h
        exact ⟨hregion, list, hlist, rfl⟩
  · intro h
    obtain ⟨hregion, list, hlist, hcalendar⟩ := h
    rw [hregion]
    simp only [hlist, hcalendar]

theorem registration_eq_error_iff : registration files c = .error e ↔ Misconfigured files c e := by
  unfold registration
  constructor
  · intro h
    split at h
    next hkey =>
      obtain rfl := Except.error.inj h
      exact .key hkey
    next hregion =>
      split at h
      next hfile =>
        obtain rfl := Except.error.inj h
        exact .file hregion hfile
      · exact nomatch h
  · intro h
    cases h with
    | key hkey => rw [hkey]
    | file hregion hfile =>
      rw [hregion]
      simp only [hfile]

/-! ## All entries -/

/-- All entries are looked at before one calendar is registered. -/
theorem registerAll_eq (files : Files) (r : Registry) (cs : List (String × String)) :
    registerAll files r cs =
      (cs.mapM (registration files)).map (List.foldl (fun r reg => r.register reg.1 reg.2) r) := by
  induction cs generalizing r with
  | nil => rfl
  | cons c cs ih =>
    obtain ⟨key, path⟩ := c
    rw [(Outcome.traverses_mapM (registration files)).cons, registerAll, registration]
    cases Identifier.parse key with
    | error e => rfl
    | ok region =>
      dsimp only
      cases files.holidayList region.value path with
      | error e => rfl
      | ok h =>
        dsimp only
        rw [ih]
        cases cs.mapM (registration files) <;> rfl

/-- Some entry is wrong, and all entries with lesser keys are good. -/
def FirstMisconfigured (files : Files) (s : Settings) (e : CommandError) : Prop :=
  ∃ c ∈ s.calendars, Misconfigured files c e ∧ ∀ d ∈ s.calendars, d.1 < c.1 → Configured files d

/-- All entries are good. -/
def AllConfigured (files : Files) (s : Settings) : Prop :=
  ∀ c ∈ s.calendars, Configured files c

theorem configuredCalendars_eq_ok_iff : configuredCalendars files s = .ok r ↔
    ∃ regs, List.Forall₂ (Configures files) s.calendarsInOrder regs ∧ Registry.ofList regs = r := by
  rw [configuredCalendars, registerAll_eq, Outcome.map_eq_ok_iff]
  simp only [(Outcome.traverses_mapM (registration files)).eq_ok_iff, registration_eq_ok_iff]
  rfl

theorem exists_configuredCalendars_iff :
    (∃ r, configuredCalendars files s = .ok r) ↔ AllConfigured files s := by
  have hall : (∃ regs, s.calendarsInOrder.mapM (registration files) = .ok regs) ↔ _ :=
    (Outcome.traverses_mapM (registration files)).exists_eq_ok_iff
  simp only [registration_eq_ok_iff, Settings.mem_calendarsInOrder] at hall
  unfold AllConfigured Configured
  rw [← hall, configuredCalendars, registerAll_eq]
  simp only [Outcome.map_eq_ok_iff]
  constructor
  · rintro ⟨r, regs, hregs, -⟩
    exact ⟨regs, hregs⟩
  · rintro ⟨regs, hregs⟩
    exact ⟨_, regs, hregs, rfl⟩

theorem configuredCalendars_eq_error_iff (hkeys : s.KeysDistinct) :
    configuredCalendars files s = .error e ↔ FirstMisconfigured files s e := by
  have hasymm : ∀ a b : String × String, a.1 < b.1 → ¬ b.1 < a.1 := fun a b => String.lt_asymm
  have hfirst : FirstOf (Configured files) (Misconfigured files · e) s.calendarsInOrder ↔ _ :=
    firstOf_iff_of_pairwise hasymm (Settings.pairwise_calendarsInOrder hkeys)
  simp only [Settings.mem_calendarsInOrder] at hfirst
  unfold FirstMisconfigured
  rw [← hfirst, configuredCalendars, registerAll_eq, Outcome.map_eq_error_iff,
    (Outcome.traverses_mapM (registration files)).eq_error_iff]
  simp only [registration_eq_ok_iff, registration_eq_error_iff]
  rfl

/-! ## The calendar in effect -/

/-- The entry for a region that has the greatest key. -/
structure LastFor (s : Settings) (id : Identifier) (c : String × String) : Prop where
  mem : c ∈ s.calendars
  region : Identifier.parse c.1 = .ok id
  greatest : ∀ d ∈ s.calendars, Identifier.parse d.1 = .ok id → d.1 ≤ c.1

theorem LastFor.unique {d : String × String} (hkeys : s.KeysDistinct) (hc : LastFor s id c)
    (hd : LastFor s id d) : c = d := by
  have hkey : c.1 = d.1 :=
    String.le_antisymm (hd.greatest c hc.mem hc.region) (hc.greatest d hd.mem hd.region)
  exact List.inj_on_of_nodup_map hkeys hc.mem hd.mem hkey

/-- The calendar on which quotes are dated for a region, with a holiday file named for the command or not. -/
inductive InEffect (files : Files) (s : Settings) :
    Option Identifier → Option String → Calendar → Prop
  | named {id : Identifier} {path : String} {h : HolidayList} :
      files.holidayList id.value path = .ok h → InEffect files s (some id) (some path) h.calendar
  | configured {id : Identifier} {c : String × String} {h : HolidayList} : LastFor s id c →
      files.holidayList id.value c.2 = .ok h → InEffect files s (some id) none h.calendar
  | weekendsOnly {region : Option Identifier} :
      (∀ c ∈ s.calendars, ∀ id, Identifier.parse c.1 = .ok id → region ≠ some id) →
      InEffect files s region none .weekendOnly

theorem InEffect.unique (hkeys : s.KeysDistinct) (h : InEffect files s region holidays calendar)
    (h' : InEffect files s region holidays calendar') : calendar = calendar' := by
  cases h with
  | named hfile =>
    cases h' with
    | named hfile' => rw [Except.ok.inj (hfile.symm.trans hfile')]
  | configured hlast hfile =>
    cases h' with
    | configured hlast' hfile' =>
      obtain rfl := hlast.unique hkeys hlast'
      rw [Except.ok.inj (hfile.symm.trans hfile')]
    | weekendsOnly hnone => exact absurd rfl (hnone _ hlast.mem _ hlast.region)
  | weekendsOnly hnone =>
    cases h' with
    | configured hlast hfile => exact absurd rfl (hnone _ hlast.mem _ hlast.region)
    | weekendsOnly => rfl

/-- In the order of the keys, the entry for a region with no other one behind it has the greatest key. -/
theorem lastFor_of_split {before after : List (String × String)} (hkeys : s.KeysDistinct)
    (hsplit : s.calendarsInOrder = before ++ c :: after) (hregion : Identifier.parse c.1 = .ok id)
    (hafter : ∀ d ∈ after, Identifier.parse d.1 ≠ .ok id) : LastFor s id c := by
  have hmem : ∀ d, d ∈ s.calendars ↔ d ∈ before ++ c :: after := fun d => by
    rw [← hsplit, Settings.mem_calendarsInOrder]
  have hsorted := Settings.pairwise_calendarsInOrder hkeys
  rw [hsplit] at hsorted
  refine ⟨(hmem c).2 (by simp), hregion, ?_⟩
  intro d hd hsame
  rcases List.mem_append.1 ((hmem d).1 hd) with hd | hd
  · have hlt := (List.pairwise_append.1 hsorted).2.2 d hd c List.mem_cons_self
    exact String.not_lt.1 (String.lt_asymm hlt)
  · rcases List.mem_cons.1 hd with rfl | hd
    · exact String.le_refl _
    · exact absurd hsame (hafter d hd)

/-- The last registration for a region comes from the entry with the greatest key. -/
theorem inEffect_of_registered (hkeys : s.KeysDistinct) {regs : List (Identifier × Calendar)}
    (hregs : List.Forall₂ (Configures files) s.calendarsInOrder regs) :
    InEffect files s region none ((Registry.ofList regs).resolve region) := by
  rw [Registry.resolve_ofList]
  cases region with
  | none => exact .weekendsOnly fun c _ id _ => nofun
  | some id =>
    unfold Registry.lastFor
    rw [Option.bind_some]
    cases hlast : (regs.filter fun reg => decide (reg.1 = id)).getLast? with
    | none =>
      apply InEffect.weekendsOnly
      intro c hc id' hid' heq
      obtain ⟨reg, hreg, hconfigures⟩ :=
        exists_mem_of_forall₂ hregs c (Settings.mem_calendarsInOrder.2 hc)
      have hnone := List.filter_eq_nil_iff.1 (List.getLast?_eq_none_iff.1 hlast) reg hreg
      have hregion : id' = reg.1 := Except.ok.inj (hid'.symm.trans hconfigures.region)
      rw [← hregion, Option.some.inj heq] at hnone
      simp at hnone
    | some reg =>
      obtain ⟨before, after, rfl, hreg, hafter⟩ := exists_split_of_getLast?_filter hlast
      obtain rfl := of_decide_eq_true hreg
      obtain ⟨cs, c, ds, hcs, hconfigures, hds⟩ := exists_split_of_forall₂ hregs
      have hlater : ∀ d ∈ ds, Identifier.parse d.1 ≠ .ok reg.1 := by
        intro d hd hregion
        obtain ⟨reg', hreg', hconfigures'⟩ := exists_mem_of_forall₂ hds d hd
        have hother := Except.ok.inj (hconfigures'.region.symm.trans hregion)
        exact hafter reg' hreg' (decide_eq_true hother)
      obtain ⟨list, hlist, hcalendar⟩ := hconfigures.calendar
      show InEffect files s (some reg.1) none reg.2
      rw [← hcalendar]
      exact .configured (lastFor_of_split hkeys hcs hconfigures.region hlater) hlist

/-! ## The calendars for a curve input -/

/-- A holiday file that is named for the command can be read, for a region that is there. -/
def HolidaysReadable (files : Files) (region : Option Identifier) (holidays : Option String) : Prop :=
  ∀ path ∈ holidays, ∃ id h, region = some id ∧ files.holidayList id.value path = .ok h

theorem allConfigured_of_calendarsFor (h : calendarsFor files s path i holidays = .ok r) :
    AllConfigured files s := by
  unfold calendarsFor at h
  split at h
  · exact nomatch h
  next r₀ hr₀ => exact exists_configuredCalendars_iff.1 ⟨r₀, hr₀⟩

/-- Once the holiday file is read its calendar is in effect, whatever was registered before. -/
theorem inEffect_of_calendarsFor (hkeys : s.KeysDistinct)
    (h : calendarsFor files s path i holidays = .ok r) :
    InEffect files s i.region holidays (r.resolve i.region) := by
  unfold calendarsFor at h
  split at h
  · exact nomatch h
  next r₀ hr₀ =>
    obtain ⟨regs, hregs, rfl⟩ := configuredCalendars_eq_ok_iff.1 hr₀
    cases holidays with
    | none =>
      obtain rfl := Except.ok.inj h
      exact inEffect_of_registered hkeys hregs
    | some named =>
      unfold registerNamed at h
      dsimp only at h
      split at h
      · exact nomatch h
      next id hid =>
        split at h
        · exact nomatch h
        next list hlist =>
          obtain rfl := Except.ok.inj h
          rw [hid, Registry.resolve_register_self]
          exact .named hlist

theorem exists_calendarsFor (hall : AllConfigured files s)
    (h : InEffect files s i.region holidays calendar) :
    ∃ r, calendarsFor files s path i holidays = .ok r := by
  obtain ⟨r, hr⟩ := exists_configuredCalendars_iff.2 hall
  unfold calendarsFor
  rw [hr]
  generalize hregion : i.region = region at h
  cases h with
  | @named id named list hfile =>
    refine ⟨r.register id list.calendar, ?_⟩
    unfold registerNamed
    simp only [hregion, hfile]
  | configured => exact ⟨r, rfl⟩
  | weekendsOnly => exact ⟨r, rfl⟩

/-- Why there are no calendars for a curve input: an entry of the settings is wrong; or else a holiday file is
named and the input has no region to give it to; or else this file cannot be read. -/
inductive NoCalendars (files : Files) (s : Settings) (path : String) :
    Option Identifier → Option String → CommandError → Prop
  | settings {region : Option Identifier} {holidays : Option String} {e : CommandError} :
      FirstMisconfigured files s e → NoCalendars files s path region holidays e
  | noRegion {named : String} : AllConfigured files s →
      NoCalendars files s path none (some named) (.regionNeeded path)
  | holidays {id : Identifier} {named : String} {e : FileError} : AllConfigured files s →
      files.holidayList id.value named = .error e →
      NoCalendars files s path (some id) (some named) (.file e)

theorem calendarsFor_eq_error_iff (hkeys : s.KeysDistinct) :
    calendarsFor files s path i holidays = .error e ↔
      NoCalendars files s path i.region holidays e := by
  unfold calendarsFor
  constructor
  · intro h
    split at h
    next hsettings =>
      obtain rfl := Except.error.inj h
      exact .settings ((configuredCalendars_eq_error_iff hkeys).1 hsettings)
    next hr =>
      have hall := exists_configuredCalendars_iff.1 ⟨_, hr⟩
      cases holidays with
      | none => exact nomatch h
      | some named =>
        unfold registerNamed at h
        dsimp only at h
        split at h
        next hregion =>
          obtain rfl := Except.error.inj h
          rw [hregion]
          exact .noRegion hall
        next hregion =>
          split at h
          next hfile =>
            obtain rfl := Except.error.inj h
            rw [hregion]
            exact .holidays hall hfile
          · exact nomatch h
  · intro h
    generalize hregion : i.region = region at h
    cases h with
    | settings hfirst => rw [(configuredCalendars_eq_error_iff hkeys).2 hfirst]
    | noRegion hall =>
      obtain ⟨r, hr⟩ := exists_configuredCalendars_iff.2 hall
      unfold registerNamed
      simp only [hr, hregion]
    | holidays hall hfile =>
      obtain ⟨r, hr⟩ := exists_configuredCalendars_iff.2 hall
      unfold registerNamed
      simp only [hr, hregion, hfile]

/-- If all entries are good and the holiday file can be read, one calendar is in effect for a region. -/
theorem existsUnique_inEffect (hkeys : s.KeysDistinct) (hall : AllConfigured files s)
    (hnamed : HolidaysReadable files region holidays) :
    ∃! calendar, InEffect files s region holidays calendar := by
  have hexists : ∃ calendar, InEffect files s region holidays calendar := by
    cases holidays with
    | none =>
      obtain ⟨r, hr⟩ := exists_configuredCalendars_iff.2 hall
      obtain ⟨regs, hregs, -⟩ := configuredCalendars_eq_ok_iff.1 hr
      exact ⟨_, inEffect_of_registered hkeys hregs⟩
    | some path =>
      obtain ⟨id, h, rfl, hfile⟩ := hnamed path rfl
      exact ⟨_, .named hfile⟩
  obtain ⟨calendar, hcalendar⟩ := hexists
  exact ⟨calendar, hcalendar, fun other hother => hother.unique hkeys hcalendar⟩

end Command

end TermStructure
