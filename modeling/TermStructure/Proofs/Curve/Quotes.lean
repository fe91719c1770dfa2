import Mathlib.Data.List.Induction
import Mathlib.Data.List.Nodup
import TermStructure.Proofs.Curve.Input
import TermStructure.Proofs.Json.Numbers
import TermStructure.Proofs.Tenor.Grammar

/-!
# Quotes that are collected

A rate is put in its place among the others unless its tenor is there already, so quotes that are collected
one after the other are a reordering of what was given, or the first repeated tenor is the error
(`Quotes.ofPairs_eq_ok_iff`, `Quotes.ofPairs_eq_error_iff`). A document's object is collected in the same way,
after each key has been read as a tenor and each value as a double (`Decode.rates_eq`,
`Decode.exists_of_rates`).
-/

namespace TermStructure

namespace Quotes

variable {q r : Quotes} {t : Tenor} {x : Float} {ps qs : List (Tenor × Float)} {e : StructureError}

/-! ## One more rate -/

theorem insert_of_mem (hps : ps.Pairwise fun p q => p.1 < q.1) (h : t ∈ ps.map Prod.fst) :
    insert t x ps = .error (.duplicateTenor t) := by
  induction ps with
  | nil => simp at h
  | cons p ps ih =>
    obtain ⟨hp, hps⟩ := List.pairwise_cons.1 hps
    rw [List.map_cons, List.mem_cons] at h
    rcases h with rfl | h
    · have hcompare : compare p.1 p.1 = .eq := Tenor.compare_eq_eq_iff.2 rfl
      rw [insert, hcompare]
    · -- All tenors after the first one are greater, so the search goes on past it.
      obtain ⟨p', hp', rfl⟩ := List.mem_map.1 h
      have hcompare : compare p'.1 p.1 = .gt := Tenor.compare_eq_gt_iff.2 (hp p' hp')
      rw [insert, hcompare, ih hps h]

theorem exists_insert (h : t ∉ ps.map Prod.fst) :
    ∃ qs, insert t x ps = .ok qs ∧ qs.Perm ((t, x) :: ps) := by
  induction ps with
  | nil => exact ⟨[(t, x)], rfl, .refl _⟩
  | cons p ps ih =>
    rw [List.map_cons, List.mem_cons, not_or] at h
    cases hcompare : compare t p.1 with
    | lt => exact ⟨(t, x) :: p :: ps, by rw [insert, hcompare], .refl _⟩
    | eq => exact absurd (Tenor.compare_eq_eq_iff.1 hcompare) h.1
    | gt =>
      obtain ⟨qs, hqs, hperm⟩ := ih h.2
      refine ⟨p :: qs, by rw [insert, hcompare, hqs], ?_⟩
      exact (hperm.cons p).trans (List.Perm.swap _ _ _)

theorem withRate_eq_ok_iff : q.withRate t x = .ok r ↔ insert t x q.points = .ok r.points := by
  rw [withRate]
  split
  next points hpoints =>
    constructor
    · intro h
      obtain rfl := Except.ok.inj h
      exact hpoints
    · intro h
      obtain rfl : points = r.points := Except.ok.inj (hpoints.symm.trans h)
      rfl
  next e he => simp [he]

/-- A tenor that has a rate gets no other one. -/
theorem withRate_of_mem (h : t ∈ q.tenors) : q.withRate t x = .error (.duplicateTenor t) := by
  have hinsert : insert t x q.points = .error (.duplicateTenor t) := insert_of_mem q.ascending h
  rw [withRate]
  split
  next points hpoints => simp [hinsert] at hpoints
  next e he =>
    rw [hinsert] at he
    rw [Except.error.inj he]

/-- Any other tenor is added, and nothing else changes. -/
theorem exists_withRate (h : t ∉ q.tenors) :
    ∃ r, q.withRate t x = .ok r ∧ r.points.Perm ((t, x) :: q.points) := by
  obtain ⟨points, hpoints, hperm⟩ := exists_insert (x := x) h
  exact ⟨⟨points, ascending_insert hpoints q.ascending⟩, withRate_eq_ok_iff.2 hpoints, hperm⟩

/-! ## Many rates -/

/-- Quotes are known by their rates in any order. -/
theorem eq_of_perm (h : q.points.Perm r.points) : q = r := by
  have hpoints : q.points = r.points :=
    h.eq_of_pairwise (fun _ _ _ _ hab hba => absurd hab (lt_asymm hba)) q.ascending r.ascending
  cases q
  cases r
  simpa using hpoints

theorem nodup_tenors (q : Quotes) : q.tenors.Nodup :=
  q.pairwise_tenors.imp ne_of_lt

theorem withRates_append (q : Quotes) (ps qs : List (Tenor × Float)) :
    q.withRates (ps ++ qs) = (q.withRates ps).bind fun r => r.withRates qs := by
  induction ps generalizing q with
  | nil => rfl
  | cons p ps ih =>
    rw [List.cons_append, withRates, withRates]
    cases q.withRate p.1 p.2 with
    | error e => rfl
    | ok r => exact ih r

theorem exists_withRates (h : (q.tenors ++ ps.map Prod.fst).Nodup) :
    ∃ r, q.withRates ps = .ok r ∧ r.points.Perm (q.points ++ ps) := by
  induction ps generalizing q with
  | nil => exact ⟨q, rfl, by simp⟩
  | cons p ps ih =>
    rw [List.map_cons, List.nodup_middle, List.nodup_cons, List.mem_append, not_or] at h
    obtain ⟨⟨hnew, hps⟩, hnodup⟩ := h
    obtain ⟨r, hr, hperm⟩ := exists_withRate (x := p.2) hnew
    have htenors : (r.tenors ++ ps.map Prod.fst).Perm (p.1 :: (q.tenors ++ ps.map Prod.fst)) :=
      (hperm.map Prod.fst).append_right _
    have hnext : (r.tenors ++ ps.map Prod.fst).Nodup :=
      htenors.nodup_iff.2 (List.nodup_cons.2 ⟨by simp [hnew, hps], hnodup⟩)
    obtain ⟨s, hs, hperm'⟩ := ih hnext
    refine ⟨s, by rw [withRates, hr]; exact hs, ?_⟩
    exact (hperm'.trans (hperm.append_right ps)).trans List.perm_middle.symm

/-- Rates are added to quotes if together they are the rates of quotes. -/
theorem withRates_of_perm (h : r.points.Perm (q.points ++ ps)) : q.withRates ps = .ok r := by
  have htenors := (h.map Prod.fst).nodup_iff.1 r.nodup_tenors
  rw [List.map_append] at htenors
  obtain ⟨s, hs, hperm⟩ := exists_withRates htenors
  rw [hs, eq_of_perm (hperm.trans h.symm)]

/-- The tenor at the earliest position whose tenor occurred before. -/
def FirstRepeated (ps : List (Tenor × Float)) (t : Tenor) : Prop :=
  ∃ before x after, ps = before ++ (t, x) :: after ∧ (before.map Prod.fst).Nodup ∧
    t ∈ before.map Prod.fst

theorem exists_firstRepeated (h : ¬ (ps.map Prod.fst).Nodup) : ∃ t, FirstRepeated ps t := by
  -- From the end, since what comes before the earliest position must be free of repetitions.
  induction ps using List.reverseRecOn with
  | nil => simp at h
  | append_singleton ps p ih =>
    by_cases hps : (ps.map Prod.fst).Nodup
    · refine ⟨p.1, ps, p.2, [], rfl, hps, ?_⟩
      by_contra hnew
      apply h
      rw [List.map_append, List.nodup_append]
      refine ⟨hps, by simp, ?_⟩
      rintro t ht u hu rfl
      obtain rfl := List.mem_singleton.1 hu
      exact hnew ht
    · obtain ⟨t, before, x, after, rfl, hbefore, ht⟩ := ih hps
      exact ⟨t, before, x, after ++ [p], by simp, hbefore, ht⟩

theorem ofPairs_of_nodup (h : (ps.map Prod.fst).Nodup) :
    ∃ q, ofPairs ps = .ok q ∧ q.points.Perm ps :=
  exists_withRates (q := empty) h

theorem ofPairs_of_firstRepeated (h : FirstRepeated ps t) :
    ofPairs ps = .error (.duplicateTenor t) := by
  obtain ⟨before, x, after, rfl, hbefore, ht⟩ := h
  obtain ⟨q, hq, hperm⟩ := ofPairs_of_nodup hbefore
  have hmem : t ∈ q.tenors := (hperm.map Prod.fst).mem_iff.2 ht
  rw [ofPairs] at hq ⊢
  rw [withRates_append, hq]
  show q.withRates ((t, x) :: after) = _
  rw [withRates, withRate_of_mem hmem]

/-- Pairs of distinct tenors are collected, and there is a repeated tenor otherwise. -/
theorem ofPairs_cases (ps : List (Tenor × Float)) :
    (∃ q, (ps.map Prod.fst).Nodup ∧ ofPairs ps = .ok q ∧ q.points.Perm ps) ∨
      ∃ t, FirstRepeated ps t ∧ ofPairs ps = .error (.duplicateTenor t) := by
  by_cases h : (ps.map Prod.fst).Nodup
  · obtain ⟨q, hq, hperm⟩ := ofPairs_of_nodup h
    exact Or.inl ⟨q, h, hq, hperm⟩
  · obtain ⟨t, ht⟩ := exists_firstRepeated h
    exact Or.inr ⟨t, ht, ofPairs_of_firstRepeated ht⟩

theorem ofPairs_eq_ok_iff : ofPairs ps = .ok q ↔ q.points.Perm ps := by
  constructor
  · intro h
    rcases ofPairs_cases ps with ⟨r, -, hr, hperm⟩ | ⟨t, -, ht⟩
    · obtain rfl := Except.ok.inj (hr.symm.trans h)
      exact hperm
    · exact nomatch ht.symm.trans h
  · intro h
    exact withRates_of_perm (q := empty) h

theorem ofPairs_eq_error_iff :
    ofPairs ps = .error e ↔ ∃ t, FirstRepeated ps t ∧ e = .duplicateTenor t := by
  constructor
  · intro h
    rcases ofPairs_cases ps with ⟨r, -, hr, -⟩ | ⟨t, hrepeated, ht⟩
    · exact nomatch hr.symm.trans h
    · exact ⟨t, hrepeated, Except.error.inj (h.symm.trans ht)⟩
  · rintro ⟨t, hrepeated, rfl⟩
    exact ofPairs_of_firstRepeated hrepeated

theorem exists_ofPairs_iff : (∃ q, ofPairs ps = .ok q) ↔ (ps.map Prod.fst).Nodup := by
  constructor
  · rintro ⟨q, hq⟩
    exact ((ofPairs_eq_ok_iff.1 hq).map Prod.fst).nodup_iff.1 q.nodup_tenors
  · intro h
    obtain ⟨q, hq, -⟩ := ofPairs_of_nodup h
    exact ⟨q, hq⟩

theorem ofPairs_perm (hperm : ps.Perm qs) (h : (ps.map Prod.fst).Nodup) : ofPairs ps = ofPairs qs := by
  obtain ⟨q, hq, hpoints⟩ := ofPairs_of_nodup h
  rw [hq, ofPairs_eq_ok_iff.2 (hpoints.trans hperm)]

/-- A tenor has the rate that it is paired with. -/
theorem get?_eq_some_iff : q.get? t = some x ↔ (t, x) ∈ q.points := by
  rw [get?, Option.map_eq_some_iff]
  constructor
  · rintro ⟨p, hp, rfl⟩
    have htenor : p.1 = t := by simpa using List.find?_some hp
    exact htenor ▸ List.mem_of_find?_eq_some hp
  · intro hmem
    cases hfind : q.points.find? (·.1 == t) with
    | none => exact absurd (List.find?_eq_none.1 hfind (t, x) hmem) (by simp)
    | some p =>
      -- The pair that is found has the same tenor, and no other pair has it.
      have htenor : p.1 = t := by simpa using List.find?_some hfind
      have heq : p = (t, x) := List.inj_on_of_nodup_map q.nodup_tenors
        (List.mem_of_find?_eq_some hfind) hmem htenor
      exact ⟨p, rfl, congrArg Prod.snd heq⟩

end Quotes

/-! ## Objects -/

/-- The double of a number in a document. There is none for numbers that are too large. -/
def Number.double? : Number → Option Float
  | int n => some (Float.ofInt n)
  | float x => some x
  | tooLarge => none

namespace Decode

variable {format : DocumentFormat} {ending : Ending} {ps : List (Tenor × Float)}
  {members : List (Key × Tree)} {q r : Quotes} {tree : Tree} {x : Float}

theorem float_eq_ok_iff :
    float format tree = .ok x ↔ ∃ n : Number, tree = .number n ∧ n.double? = some x := by
  have hmismatch : ∀ t : Tree, ¬ (mismatch t "f64" : Decoded Float) = .ok x := by
    intro t h
    rw [mismatch] at h
    split at h <;> simp at h
  constructor
  · intro h
    unfold float at h
    split at h
    next n => exact ⟨.int n, rfl, congrArg some (Except.ok.inj h)⟩
    next y => exact ⟨.float y, rfl, congrArg some (Except.ok.inj h)⟩
    next => exact absurd h (hmismatch _)
  · rintro ⟨n, rfl, hn⟩
    cases n with
    | int n => exact congrArg Except.ok (Option.some.inj hn)
    | float y => exact congrArg Except.ok (Option.some.inj hn)
    | tooLarge => exact nomatch hn

/-- A member of an object quotes a rate: its key stands for the tenor, and its value is a number. -/
structure IsQuote (p : Tenor × Float) (m : Key × Tree) : Prop where
  key : ∃ name, m.1 = some name ∧ p.1.SpelledBy name
  value : ∃ n : Number, m.2 = .number n ∧ n.double? = some p.2

theorem rates_cons {name : String} {rest : List (Key × Tree)} {t : Tenor}
    (hkey : Tenor.parse name = .ok t) (hvalue : float format tree = .ok x) :
    rates format ending q ((some name, tree) :: rest) =
      (check .structural (q.withRate t x)).bind fun q => rates format ending q rest := by
  have hname : check .value (Tenor.parse name) = .ok t := check_eq_ok_iff.2 hkey
  simp only [rates, hname, hvalue]
  cases check .structural (q.withRate t x) <;> rfl

/-- Members that quote rates are collected as their rates are. -/
theorem rates_eq (h : List.Forall₂ IsQuote ps members) (q : Quotes) :
    rates format .closed q members = check .structural (q.withRates ps) := by
  induction h generalizing q with
  | nil => rfl
  | @cons p m ps members hp _ ih =>
    obtain ⟨key, tree⟩ := m
    obtain ⟨⟨name, rfl, hname⟩, hvalue⟩ := hp
    rw [rates_cons (Tenor.parse_eq_ok_iff.2 hname) (float_eq_ok_iff.2 hvalue), Quotes.withRates]
    cases q.withRate p.1 p.2 with
    | error e => rfl
    | ok q => exact ih q

/-- Where an object is read, each of its members quotes a rate. -/
theorem exists_of_rates (h : rates format ending q members = .ok r) :
    ∃ ps, List.Forall₂ IsQuote ps members ∧ q.withRates ps = .ok r := by
  induction members generalizing q with
  | nil =>
    rw [rates] at h
    split at h
    · obtain rfl := Except.ok.inj h
      exact ⟨[], .nil, rfl⟩
    · simp at h
  | cons m members ih =>
    obtain ⟨_ | name, tree⟩ := m
    · simp [rates] at h
    cases hkey : Tenor.parse name with
    | error e => simp [rates, hkey, check] at h
    | ok t =>
      cases hvalue : float format tree with
      | error e => simp [rates, hkey, hvalue, check] at h
      | ok x =>
        rw [rates_cons hkey hvalue] at h
        obtain ⟨q', hq', hrest⟩ := Outcome.bind_eq_ok_iff.1 h
        obtain ⟨ps, hps, hr⟩ := ih hrest
        have hquote : IsQuote (t, x) (some name, tree) :=
          ⟨⟨name, rfl, Tenor.parse_eq_ok_iff.1 hkey⟩, float_eq_ok_iff.1 hvalue⟩
        refine ⟨(t, x) :: ps, .cons hquote hps, ?_⟩
        rw [Quotes.withRates, check_eq_ok_iff.1 hq']
        exact hr

/-- What the members of an object are read as: quotes if each member quotes a rate and no two of them quote the
same tenor, and then as many as there are members. -/
structure ReadsQuotes (members : List (Key × Tree)) (outcome : Decoded Quotes) : Prop where
  succeeds_iff : (∃ q, outcome = .ok q) ↔
    ∃ ps, List.Forall₂ IsQuote ps members ∧ (ps.map Prod.fst).Nodup
  kept : ∀ q, outcome = .ok q →
    q.size = members.length ∧ ∃ ps, List.Forall₂ IsQuote ps members ∧ q.points.Perm ps
  repeated : ∀ ps t, List.Forall₂ IsQuote ps members → Quotes.FirstRepeated ps t →
    outcome = .error (.data (.structural (.duplicateTenor t)))

theorem readsQuotes (format : DocumentFormat) (members : List (Key × Tree)) :
    ReadsQuotes members (quotes format (.object members .closed)) := by
  have hcollected : ∀ ps, List.Forall₂ IsQuote ps members →
      quotes format (.object members .closed) = check .structural (Quotes.ofPairs ps) :=
    fun ps hps => rates_eq hps .empty
  have hread : ∀ q, quotes format (.object members .closed) = .ok q →
      ∃ ps, List.Forall₂ IsQuote ps members ∧ Quotes.ofPairs ps = .ok q :=
    fun q hq => exists_of_rates hq
  refine ⟨⟨?_, ?_⟩, fun q hq => ?_, fun ps t hps ht => ?_⟩
  · rintro ⟨q, hq⟩
    obtain ⟨ps, hps, hpairs⟩ := hread q hq
    exact ⟨ps, hps, Quotes.exists_ofPairs_iff.1 ⟨q, hpairs⟩⟩
  · rintro ⟨ps, hps, hnodup⟩
    obtain ⟨q, hq⟩ := Quotes.exists_ofPairs_iff.2 hnodup
    exact ⟨q, by rw [hcollected ps hps, hq, check]⟩
  · obtain ⟨ps, hps, hpairs⟩ := hread q hq
    have hperm := Quotes.ofPairs_eq_ok_iff.1 hpairs
    exact ⟨hperm.length_eq.trans hps.length_eq, ps, hps, hperm⟩
  · rw [hcollected ps hps, Quotes.ofPairs_of_firstRepeated ht, check]

theorem parse_quotes {text : String} (h : Json.read text = ⟨.object members .closed, true⟩) :
    DocumentFormat.json.parse quotes text = quotes .json (.object members .closed) :=
  DocumentFormat.parse_of_read h

end Decode

/-- Quotes are collected from pairs of distinct tenors, in any order, and are then exactly these pairs by
tenor; otherwise the earliest tenor that is repeated is the error, as it is for one more rate at a tenor that
has one. An object is read as quotes if its keys stand for distinct tenors and its values are numbers, and none
of its members is lost. -/
theorem quotes_kept :
    (∀ ps, (∃ q, Quotes.ofPairs ps = .ok q) ↔ (ps.map Prod.fst).Nodup) ∧
    (∀ ps q, Quotes.ofPairs ps = .ok q → q.points.Perm ps ∧ q.tenors.Pairwise (· < ·) ∧
      ∀ t x, q.get? t = some x ↔ (t, x) ∈ ps) ∧
    (∀ ps e, Quotes.ofPairs ps = .error e ↔ ∃ t, Quotes.FirstRepeated ps t ∧ e = .duplicateTenor t) ∧
    (∀ ps qs, ps.Perm qs → (ps.map Prod.fst).Nodup → Quotes.ofPairs ps = Quotes.ofPairs qs) ∧
    (∀ (q : Quotes) t x, t ∈ q.tenors → q.withRate t x = .error (.duplicateTenor t)) ∧
    (∀ (q : Quotes) t x, t ∉ q.tenors →
      ∃ r, q.withRate t x = .ok r ∧ r.points.Perm ((t, x) :: q.points)) ∧
    (∀ format members, Decode.ReadsQuotes members (Decode.quotes format (.object members .closed))) ∧
    (∀ text members, Json.read text = ⟨.object members .closed, true⟩ →
      Decode.ReadsQuotes members (DocumentFormat.json.parse Decode.quotes text)) ∧
    ∀ name ∈ ["3M", "03M", "+3M", "p3m", "P3M"],
      ∃ t : Tenor, t.SpelledBy name ∧ t.amount = 3 ∧ t.unit = .months := by
  refine ⟨fun ps => Quotes.exists_ofPairs_iff, fun ps q hq => ?_, fun ps e => Quotes.ofPairs_eq_error_iff,
    fun ps qs => Quotes.ofPairs_perm, fun q t x => Quotes.withRate_of_mem, fun q t x => Quotes.exists_withRate,
    Decode.readsQuotes, fun text members htext => ?_, fun name hname => ?_⟩
  · have hperm := Quotes.ofPairs_eq_ok_iff.1 hq
    exact ⟨hperm, q.pairwise_tenors, fun t x => Quotes.get?_eq_some_iff.trans hperm.mem_iff⟩
  · rw [Decode.parse_quotes htext]
    exact Decode.readsQuotes .json members
  · have hparse : ∀ name ∈ ["3M", "03M", "+3M", "p3m", "P3M"],
        Tenor.parse name = .ok ⟨3, .months, by decide⟩ := by
      decide +kernel
    exact ⟨_, Tenor.parse_eq_ok_iff.1 (hparse name hname), rfl, rfl⟩

/-- A year and twelve months are distinct tenors, among pairs in either order and as members of an object. Twelve
months in another spelling are one tenor too many. -/
theorem quotes_kept_twelve_months : ∃ (t u : Tenor) (x y : Float) (q : Quotes) (text text' : String),
    t.text = "12M" ∧ u.text = "1Y" ∧ ([(u, y), (t, x)].map Prod.fst).Nodup ∧
    Quotes.ofPairs [(u, y), (t, x)] = .ok q ∧ Quotes.ofPairs [(t, x), (u, y)] = .ok q ∧
    q.get? t = some x ∧ t ∈ q.tenors ∧ q.withRate t y = .error (.duplicateTenor t) ∧
    Json.read text = ⟨.ofMembers [("1Y", .number (.int 2)), ("12M", .number (.int 1))], true⟩ ∧
    (∃ r, DocumentFormat.json.parse Decode.quotes text = .ok r ∧ r.size = 2) ∧
    Json.read text' = ⟨.ofMembers [("1Y", .number (.int 2)), ("12M", .number (.int 1)),
      ("p012m", .number (.int 3))], true⟩ ∧
    DocumentFormat.json.parse Decode.quotes text' =
      .error (.data (.structural (.duplicateTenor t))) := by
  obtain ⟨hsucceeds, hkept, -, hperm, hpresent, -, -, hread, -⟩ := quotes_kept
  have hquote : ∀ (t : Tenor) name n, Tenor.parse name = .ok t →
      Decode.IsQuote (t, Float.ofInt n) (some name, .number (.int n)) :=
    fun t name n ht => ⟨⟨name, rfl, Tenor.parse_eq_ok_iff.1 ht⟩, .int n, rfl, rfl⟩
  have hmember : ∀ name n, -2 ^ 63 ≤ n → n < 2 ^ 64 →
      Json.MemberReadsBack (name, .number (.int n)) (name, .number (.int n)) :=
    fun name n hlow hhigh => ⟨rfl, .ofInt hlow hhigh⟩
  have hyear := hquote ⟨1, .years, by decide⟩ "1Y" 2 (by decide +kernel)
  have hmonths := hquote ⟨12, .months, by decide⟩ "12M" 1 (by decide +kernel)
  have hagain := hquote ⟨12, .months, by decide⟩ "p012m" 3 (by decide +kernel)
  have htext := Json.readsBack_iff.1 (.ofMembers (.cons (hmember "1Y" 2 (by decide) (by decide))
    (.cons (hmember "12M" 1 (by decide) (by decide)) .nil)))
  have htext' := Json.readsBack_iff.1 (.ofMembers (.cons (hmember "1Y" 2 (by decide) (by decide))
    (.cons (hmember "12M" 1 (by decide) (by decide))
      (.cons (hmember "p012m" 3 (by decide) (by decide)) .nil))))
  have hnodup : ([((⟨1, .years, by decide⟩ : Tenor), Float.ofInt 2),
      (⟨12, .months, by decide⟩, Float.ofInt 1)].map Prod.fst).Nodup := by
    simp
  obtain ⟨q, hq⟩ := (hsucceeds _).2 hnodup
  obtain ⟨hpoints, -, hget⟩ := hkept _ q hq
  have hmem : (⟨12, .months, by decide⟩ : Tenor) ∈ q.tenors := (hpoints.map Prod.fst).mem_iff.2 (by simp)
  obtain ⟨r, hr⟩ := (hread _ _ htext).succeeds_iff.2 ⟨_, .cons hyear (.cons hmonths .nil), hnodup⟩
  refine ⟨_, _, _, _, q, _, _, by decide +kernel, by decide +kernel, hnodup, hq,
    (hperm _ _ (List.Perm.swap _ _ _) hnodup).symm.trans hq, (hget _ _).2 (by simp), hmem,
    hpresent q _ _ hmem, htext, ⟨r, hr, ((hread _ _ htext).kept r hr).1⟩, htext', ?_⟩
  exact (hread _ _ htext').repeated _ _ (.cons hyear (.cons hmonths (.cons hagain .nil)))
    ⟨[_, _], _, [], rfl, hnodup, by simp⟩

end TermStructure
