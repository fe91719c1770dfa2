import Mathlib.Data.List.TakeWhile
import TermStructure.Proofs.Date.Text
import TermStructure.Proofs.Document.Restored
import TermStructure.Proofs.Tenor.Grammar

/-!
# The two readers of dates

Files and arguments are read by `Date.parse`, document values by `Date.ofText`. Both go through the same parts of
a text (`Date.readWith_eq_ok_iff`), but the first has the blanks around the text removed beforehand, while the
second meets them: those in front before the year, those at the end after the day. Blanks at the end stay behind
whatever a part has left (`Date.readYear_append`, `Date.readField_append`), so the second reader accepts all that
the first one does, with the same date (`Date.ofText_of_parse`).
-/

namespace TermStructure

namespace Date

variable {cs rest before after : List Char} {width? : Option Nat} {n limit : Nat} {year : Int} {d : Date}
  {gap : List Char → List Char}

/-! ## Digits -/

/-- The digits in front of a text, at most as many as a width allows. -/
def digitRun (width? : Option Nat) (cs : List Char) : List Char :=
  match width? with
  | some w => (cs.takeWhile Char.isDigit).take w
  | none => cs.takeWhile Char.isDigit

theorem isPrefix_digitRun (width? : Option Nat) (cs : List Char) : digitRun width? cs <+: cs := by
  cases width? with
  | none => exact List.takeWhile_prefix _
  | some w => exact (List.take_prefix w _).trans (List.takeWhile_prefix _)

theorem readDigits_eq_ok_iff : readDigits width? cs = .ok (n, rest) ↔
    digitRun width? cs ≠ [] ∧ Nat.ofDigitChars 10 (digitRun width? cs) 0 < 2 ^ 63 ∧
      Nat.ofDigitChars 10 (digitRun width? cs) 0 = n ∧ cs.drop (digitRun width? cs).length = rest := by
  cases cs with
  | nil =>
    have hnil : digitRun width? [] = [] := List.prefix_nil.1 (isPrefix_digitRun width? [])
    simp [readDigits, hnil]
  | cons c cs =>
    have hrun : readDigits width? (c :: cs) =
        if digitRun width? (c :: cs) = [] then .error .invalidCharacters
        else if Nat.ofDigitChars 10 (digitRun width? (c :: cs)) 0 < 2 ^ 63 then
          .ok (Nat.ofDigitChars 10 (digitRun width? (c :: cs)) 0,
            (c :: cs).drop (digitRun width? (c :: cs)).length)
        else .error .outOfRange := by
      cases width? <;> rfl
    rw [hrun]
    by_cases hne : digitRun width? (c :: cs) = []
    · simp [hne]
    · rw [if_neg hne, Outcome.ite_eq_ok_iff, Prod.mk.injEq]
      exact (and_iff_right hne).symm

/-- Blanks at the end of a text are no digits. -/
theorem digitRun_append (h : ∀ c ∈ after, Text.isBlank c = true) :
    digitRun width? (cs ++ after) = digitRun width? cs := by
  have hstop : after.takeWhile Char.isDigit = [] := by
    cases after with
    | nil => rfl
    | cons c after =>
      refine List.takeWhile_cons_of_neg fun hc => ?_
      have hblank := h c List.mem_cons_self
      rw [Text.not_isBlank_of_isDigit hc] at hblank
      exact nomatch hblank
  have htake : (cs ++ after).takeWhile Char.isDigit = cs.takeWhile Char.isDigit := by
    rw [List.takeWhile_append, hstop, List.append_nil]
    split
    next hall => exact (List.takeWhile_prefix _).eq_of_length hall |>.symm
    · rfl
  cases width? <;> simp only [digitRun, htake]

theorem readDigits_append (hafter : ∀ c ∈ after, Text.isBlank c = true)
    (h : readDigits width? cs = .ok (n, rest)) :
    readDigits width? (cs ++ after) = .ok (n, rest ++ after) := by
  rw [readDigits_eq_ok_iff] at h ⊢
  obtain ⟨hne, hsmall, hvalue, rfl⟩ := h
  rw [digitRun_append hafter]
  refine ⟨hne, hsmall, hvalue, ?_⟩
  exact List.drop_append_of_le_length (isPrefix_digitRun _ _).length_le

/-! ## Numbers -/

theorem ne_nil_of_readDigits (h : readDigits width? cs = .ok (n, rest)) : cs ≠ [] := by
  rintro rfl
  exact nomatch h

/-- Blanks at the end stay there, unless there is nothing before them. -/
theorem trimLeft_append (h : Text.trimLeft cs ≠ []) (after : List Char) :
    Text.trimLeft (cs ++ after) = Text.trimLeft cs ++ after := by
  rw [Text.trimLeft, List.dropWhile_append, ← Text.trimLeft]
  simp [h]

theorem readField_eq_ok_iff : readField limit cs = .ok (n, rest) ↔
    readDigits (some 2) (Text.trimLeft cs) = .ok (n, rest) ∧ 1 ≤ n ∧ n ≤ limit := by
  change (readDigits (some 2) (Text.trimLeft cs)).bind _ = _ ↔ _
  rw [Outcome.bind_eq_ok_iff]
  constructor
  · rintro ⟨⟨m, rest'⟩, hp, h⟩
    obtain ⟨hlimit, heq⟩ := Outcome.ite_eq_ok_iff.1 h
    obtain ⟨rfl, rfl⟩ := Prod.mk.inj heq
    exact ⟨hp, hlimit⟩
  · rintro ⟨hp, hlimit⟩
    exact ⟨_, hp, if_pos hlimit⟩

theorem readField_append (hafter : ∀ c ∈ after, Text.isBlank c = true)
    (h : readField limit cs = .ok (n, rest)) :
    readField limit (cs ++ after) = .ok (n, rest ++ after) := by
  rw [readField_eq_ok_iff] at h ⊢
  obtain ⟨hdigits, hn⟩ := h
  rw [trimLeft_append (ne_nil_of_readDigits hdigits)]
  exact ⟨readDigits_append hafter hdigits, hn⟩

/-- A year with its sign, whose digits may be as many as it likes. -/
def readSigned (sign : Int) (cs : List Char) : Except DateTextFault (Int × List Char) :=
  (readDigits none cs).bind fun p =>
    if -2 ^ 31 ≤ sign * p.1 ∧ sign * p.1 < 2 ^ 31 then .ok (sign * p.1, p.2) else .error .outOfRange

theorem readSigned_append (hafter : ∀ c ∈ after, Text.isBlank c = true) {sign : Int}
    (h : readSigned sign cs = .ok (year, rest)) :
    readSigned sign (cs ++ after) = .ok (year, rest ++ after) := by
  obtain ⟨⟨n, rest'⟩, hdigits, hyear⟩ := Outcome.bind_eq_ok_iff.1 h
  obtain ⟨hrange, heq⟩ := Outcome.ite_eq_ok_iff.1 hyear
  obtain ⟨rfl, rfl⟩ := Prod.mk.inj heq
  exact Outcome.bind_eq_ok_iff.2 ⟨_, readDigits_append hafter hdigits, if_pos hrange⟩

theorem readYear_of_digits {c : Char} {body : List Char} (h : Text.trimLeft cs = c :: body)
    (hminus : c ≠ '-') (hplus : c ≠ '+') :
    readYear cs = (readDigits (some 4) (c :: body)).map fun p => ((p.1 : Int), p.2) := by
  rw [readYear, h]
  split
  next heq => exact absurd (List.cons.inj heq).1 hminus
  next heq => exact absurd (List.cons.inj heq).1 hplus
  · cases readDigits (some 4) (c :: body) <;> rfl

theorem readYear_append (hafter : ∀ c ∈ after, Text.isBlank c = true)
    (h : readYear cs = .ok (year, rest)) : readYear (cs ++ after) = .ok (year, rest ++ after) := by
  cases htext : Text.trimLeft cs with
  | nil =>
    rw [readYear, htext] at h
    have hdigits : readDigits (some 4) [] = .error .tooShort := rfl
    simp [hdigits, bind, Except.bind] at h
  | cons c body =>
    have happend : Text.trimLeft (cs ++ after) = c :: (body ++ after) := by
      rw [trimLeft_append (by simp [htext]), htext, List.cons_append]
    by_cases hminus : c = '-'
    · subst hminus
      rw [readYear, htext] at h
      rw [readYear, happend]
      exact readSigned_append hafter h
    · by_cases hplus : c = '+'
      · subst hplus
        rw [readYear, htext] at h
        rw [readYear, happend]
        exact readSigned_append hafter h
      · rw [readYear_of_digits htext hminus hplus] at h
        rw [readYear_of_digits happend hminus hplus]
        obtain ⟨⟨n, rest'⟩, hdigits, heq⟩ := Outcome.map_eq_ok_iff.1 h
        obtain ⟨rfl, rfl⟩ := Prod.mk.inj heq
        exact Outcome.map_eq_ok_iff.2 ⟨_, readDigits_append hafter hdigits, rfl⟩

/-- Blanks in front of a year are skipped. -/
theorem readYear_append_left (hbefore : ∀ c ∈ before, Text.isBlank c = true) (cs : List Char) :
    readYear (before ++ cs) = readYear cs := by
  have htrim : Text.trimLeft (before ++ cs) = Text.trimLeft cs := List.dropWhile_append_of_pos hbefore
  rw [readYear, htrim, ← readYear]

/-! ## Whole dates -/

theorem readHyphen_eq_ok_iff : readHyphen cs = .ok rest ↔ cs = '-' :: rest := by
  unfold readHyphen
  split
  · simp
  · simp
  next hne =>
    constructor
    · exact nofun
    · intro h
      exact absurd h (hne rest)

theorem ofYmd?_eq_some_iff {month day : Nat} :
    ofYmd? year month day = some d ↔ d.year = year ∧ d.month = month ∧ d.day = day := by
  constructor
  · intro h
    rw [ofYmd?] at h
    split at h
    · obtain rfl := Option.some.inj h
      exact ⟨rfl, rfl, rfl⟩
    · simp at h
  · rintro ⟨rfl, rfl, rfl⟩
    exact dif_pos ⟨d.year_mem, d.month_mem, d.day_mem⟩

/-- The numbers of a date stand in a text, with a hyphen after the year and the month. -/
structure Parts (gap : List Char → List Char) (cs : List Char) (d : Date)
    (afterYear months afterMonth days afterDay : List Char) : Prop where
  year : readYear cs = .ok (d.year, afterYear)
  hyphenAfterYear : gap afterYear = '-' :: months
  month : readField 12 months = .ok (d.month, afterMonth)
  hyphenAfterMonth : gap afterMonth = '-' :: days
  day : readField 31 days = .ok (d.day, afterDay)
  ends : gap afterDay = []

theorem readWith_eq_ok_iff : readWith gap cs = .ok d ↔
    ∃ afterYear months afterMonth days afterDay,
      Parts gap cs d afterYear months afterMonth days afterDay := by
  change (readYear cs).bind _ = _ ↔ _
  constructor
  · intro h
    obtain ⟨⟨year, afterYear⟩, hyear, h⟩ := Outcome.bind_eq_ok_iff.1 h
    obtain ⟨months, hmonths, h⟩ := Outcome.bind_eq_ok_iff.1 h
    obtain ⟨⟨month, afterMonth⟩, hmonth, h⟩ := Outcome.bind_eq_ok_iff.1 h
    obtain ⟨days, hdays, h⟩ := Outcome.bind_eq_ok_iff.1 h
    obtain ⟨⟨day, afterDay⟩, hday, h⟩ := Outcome.bind_eq_ok_iff.1 h
    dsimp only at hmonths hmonth hdays hday h
    split at h
    · exact nomatch h
    next hends =>
      split at h
      next d' hd' =>
        obtain rfl := Except.ok.inj h
        obtain ⟨rfl, rfl, rfl⟩ := ofYmd?_eq_some_iff.1 hd'
        exact ⟨_, _, _, _, _, hyear, readHyphen_eq_ok_iff.1 hmonths, hmonth,
          readHyphen_eq_ok_iff.1 hdays, hday, not_not.1 hends⟩
      · exact nomatch h
  · rintro ⟨afterYear, months, afterMonth, days, afterDay, h⟩
    refine Outcome.bind_eq_ok_iff.2 ⟨_, h.year, ?_⟩
    refine Outcome.bind_eq_ok_iff.2 ⟨_, readHyphen_eq_ok_iff.2 h.hyphenAfterYear, ?_⟩
    refine Outcome.bind_eq_ok_iff.2 ⟨_, h.month, ?_⟩
    refine Outcome.bind_eq_ok_iff.2 ⟨_, readHyphen_eq_ok_iff.2 h.hyphenAfterMonth, ?_⟩
    refine Outcome.bind_eq_ok_iff.2 ⟨_, h.day, ?_⟩
    have hdate : ofYmd? d.year d.month d.day = some d := ofYmd?_eq_some_iff.2 ⟨rfl, rfl, rfl⟩
    dsimp only
    rw [if_neg (not_not_intro h.ends), hdate]

theorem parse_eq_ok_iff {s : String} : parse s = .ok d ↔ readWith id (Text.trim s.toList) = .ok d := by
  rw [parse]
  cases readWith id (Text.trim s.toList) <;> simp

/-- What is read as a date of a file or an argument is read as the same date of a document. -/
theorem ofText_of_parse {s : String} (h : parse s = .ok d) : ofText s = .ok d := by
  obtain ⟨before, after, htext, hbefore, hafter⟩ := Text.exists_trim s.toList
  obtain ⟨afterYear, months, afterMonth, days, afterDay, hparts⟩ :=
    readWith_eq_ok_iff.1 (parse_eq_ok_iff.1 h)
  have hhyphen : ∀ {rest cs}, rest = '-' :: cs → Text.trimLeft (rest ++ after) = '-' :: (cs ++ after) := by
    rintro rest cs rfl
    exact Text.trimLeft_eq_self (by decide)
  have hends : Text.trimLeft (afterDay ++ after) = [] := by
    rw [show afterDay = [] from hparts.ends, List.nil_append]
    exact List.dropWhile_eq_nil_iff.2 hafter
  rw [ofText, htext, List.append_assoc, readWith_eq_ok_iff]
  refine ⟨_, _, _, _, _, ?_, hhyphen hparts.hyphenAfterYear, readField_append hafter hparts.month,
    hhyphen hparts.hyphenAfterMonth, readField_append hafter hparts.day, hends⟩
  rw [readYear_append_left hbefore]
  exact readYear_append hafter hparts.year

/-! ## Texts of dates -/

/-- The characters that dates are written with. -/
def IsPlain (c : Char) : Prop :=
  c.isDigit = true ∨ c = '-' ∨ c = '+'

theorem IsPlain.not_isBlank {c : Char} (h : IsPlain c) : Text.isBlank c = false := by
  rcases h with h | rfl | rfl
  · exact Text.not_isBlank_of_isDigit h
  · decide
  · decide

theorem IsPlain.escapeChar_eq {c : Char} (h : IsPlain c) : Json.escapeChar c = [c] := by
  have hcode : 43 ≤ c.toNat ∧ c.toNat ≤ 57 := by
    rcases h with h | rfl | rfl
    · have hrange : 48 ≤ c.toNat ∧ c.toNat ≤ 57 := by
        simpa [Char.isDigit, UInt32.le_iff_toNat_le] using h
      omega
    · decide
    · decide
  unfold Json.escapeChar
  split
  case h_8 => exact if_neg (by omega)
  all_goals exact absurd hcode (by decide)

theorem isPlain_of_mem_chars {c : Char} (h : c ∈ d.chars) : IsPlain c := by
  have hdigits : ∀ {width n}, c ∈ Numeral.paddedDigits width n → IsPlain c :=
    fun hmem => Or.inl (Numeral.isDigit_of_mem_paddedDigits hmem)
  have hyear : c ∈ yearChars d.year → IsPlain c := by
    intro hmem
    rw [yearChars] at hmem
    split at hmem
    · exact (List.mem_cons.1 hmem).elim (fun heq => Or.inr (Or.inl heq)) hdigits
    · split at hmem
      · exact (List.mem_cons.1 hmem).elim (fun heq => Or.inr (Or.inr heq)) hdigits
      · exact hdigits hmem
  simp only [chars, List.mem_append, List.mem_cons] at h
  rcases h with (hmem | heq | hmem) | heq | hmem
  · exact hyear hmem
  · exact Or.inr (Or.inl heq)
  · exact hdigits hmem
  · exact Or.inr (Or.inl heq)
  · exact hdigits hmem

/-- The text of a date reads as this date in files and arguments. -/
theorem parse_text (d : Date) : parse d.text = .ok d := by
  have htrim : Text.trim d.chars = d.chars := Text.trim_eq_self
    (fun c hc => (isPlain_of_mem_chars (List.mem_of_mem_head? hc)).not_isBlank)
    (fun c hc => (isPlain_of_mem_chars (List.mem_of_getLast? hc)).not_isBlank)
  rw [parse_eq_ok_iff, text, String.toList_ofList, htrim]
  exact readWith_chars (fun _ _ => rfl) d

/-- A date is written in documents as it is elsewhere, between quotes. -/
theorem compact_date (d : Date) : Json.compact (Encode.date d) = "\"" ++ d.text ++ "\"" := by
  have hchars : d.chars.flatMap Json.escapeChar = d.chars := by
    rw [List.flatMap_congr fun c hc => (isPlain_of_mem_chars hc).escapeChar_eq]
    simp
  have htext : Json.compactChars (Encode.date d) = '"' :: d.chars ++ ['"'] := by
    change '"' :: d.text.toList.flatMap Json.escapeChar ++ ['"'] = _
    rw [text, String.toList_ofList, hchars]
  rw [Json.compact, htext, text]
  apply String.toList_inj.1
  simp

/-! ## Texts that are read -/

theorem parse_compact_ofText (s : String) :
    DocumentFormat.json.parse Decode.date (Json.compact (.ofText s)) =
      Decode.check .dateText (ofText s) :=
  DocumentFormat.parse_compact_ofText Decode.date s

theorem restored (d : Date) : Restored Decode.date Encode.date d :=
  (parse_compact_ofText d.text).trans (Decode.check_eq_ok_iff.2 (ofText_text d))

/-- Every date, from 1 January of -262143 to 31 December of 262142, has one text, in documents and elsewhere, and
is read from it by either reader. Whatever is read as a date elsewhere is read as the same date in a document,
so no text stands for two dates. -/
theorem texts_agree :
    (∀ d : Date, parse d.text = .ok d ∧ ofText d.text = .ok d ∧
      Json.compact (Encode.date d) = "\"" ++ d.text ++ "\"" ∧ Restored Decode.date Encode.date d) ∧
    (∀ s d, parse s = .ok d → ofText s = .ok d ∧
      (∀ format, Decode.date format (.ofText s) = .ok d) ∧
      DocumentFormat.json.parse Decode.date (Json.compact (.ofText s)) = .ok d) ∧
    ∀ s d e, parse s = .ok d → ofText s = .ok e → d = e := by
  refine ⟨fun d => ⟨parse_text d, ofText_text d, compact_date d, restored d⟩, fun s d h => ?_,
    fun s d e h he => Except.ok.inj ((ofText_of_parse h).symm.trans he)⟩
  have hcheck : Decode.check .dateText (ofText s) = .ok d :=
    Decode.check_eq_ok_iff.2 (ofText_of_parse h)
  exact ⟨ofText_of_parse h, fun _ => hcheck, (parse_compact_ofText s).trans hcheck⟩

/-- The first and the last date, and texts with blanks around them or with fewer digits. Blanks before a hyphen are
read in documents only. -/
theorem texts_agree_extremes : ∃ d : Date,
    first.text = "-262143-01-01" ∧ parse "-262143-01-01" = .ok first ∧
    last.text = "+262142-12-31" ∧ ofText "+262142-12-31" = .ok last ∧
    d.text = "0005-01-02" ∧ parse "\t5-1-2\u3000" = .ok d ∧ ofText "\t5-1-2\u3000" = .ok d ∧
    (parse "5 - 1 - 2").toOption = none ∧ ofText "5 - 1 - 2" = .ok d := by
  obtain ⟨-, hsame, -⟩ := texts_agree
  have hread : parse "\t5-1-2\u3000" = .ok ⟨5, 1, 2, by decide, by decide, by decide⟩ := by decide +kernel
  exact ⟨_, by decide +kernel, by decide +kernel, by decide +kernel, by decide +kernel, by decide +kernel,
    hread, (hsame _ _ hread).1, by decide +kernel, by decide +kernel⟩

end Date

end TermStructure
