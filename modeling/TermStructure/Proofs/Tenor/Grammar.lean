import Mathlib.Data.List.TakeWhile
import TermStructure.Proofs.Tenor.Text

/-!
# The grammar of tenors

`Tenor.Spells` says without the reader which characters stand for a tenor, and `Tenor.SpelledBy` allows
blanks around them. The reader accepts exactly these texts (`Tenor.parse_eq_ok_iff`). A tenor has many of
them, and one that it is written as (`Tenor.text_injective`).
-/

namespace TermStructure

/-! ## Blanks around a text -/

namespace Text

variable {before body after cs : List Char}

theorem trimRight_append (hafter : ∀ c ∈ after, isBlank c = true) :
    trimRight (cs ++ after) = trimRight cs := by
  have hreverse : ∀ c ∈ after.reverse, isBlank c = true := by simpa using hafter
  rw [trimRight, List.reverse_append, trimLeft, List.dropWhile_append_of_pos hreverse]
  rfl

/-- Blanks around a text do not count. -/
theorem trim_append (hbefore : ∀ c ∈ before, isBlank c = true)
    (hafter : ∀ c ∈ after, isBlank c = true) : trim (before ++ body ++ after) = trim body := by
  have hleft : trimLeft (before ++ body ++ after) = trimLeft (body ++ after) := by
    rw [trimLeft, List.append_assoc, List.dropWhile_append_of_pos hbefore]
    rfl
  rw [trim, trim, hleft]
  by_cases hbody : trimLeft body = []
  · -- A text of blanks only is lost in those after it.
    have hnil : trimLeft after = [] := List.dropWhile_eq_nil_iff.2 hafter
    have hall : trimLeft (body ++ after) = trimLeft after := by
      rw [trimLeft, List.dropWhile_append, ← trimLeft, hbody]
      rfl
    rw [hall, hnil, hbody]
  · have hkept : trimLeft (body ++ after) = trimLeft body ++ after := by
      rw [trimLeft, List.dropWhile_append, ← trimLeft]
      simp [hbody]
    rw [hkept, trimRight_append hafter]

theorem exists_trimLeft (cs : List Char) :
    ∃ before, cs = before ++ trimLeft cs ∧ ∀ c ∈ before, isBlank c = true :=
  ⟨cs.takeWhile isBlank, List.takeWhile_append_dropWhile.symm, fun _ => List.mem_takeWhile_imp⟩

/-- What is trimmed of a text stands in it between blanks. -/
theorem exists_trim (cs : List Char) : ∃ before after, cs = before ++ trim cs ++ after ∧
    (∀ c ∈ before, isBlank c = true) ∧ ∀ c ∈ after, isBlank c = true := by
  obtain ⟨before, hbefore, hblank⟩ := exists_trimLeft cs
  obtain ⟨cut, hcut, hblank'⟩ := exists_trimLeft (trimLeft cs).reverse
  refine ⟨before, cut.reverse, ?_, hblank, by simpa using hblank'⟩
  have hright : trimLeft cs = trim cs ++ cut.reverse := by
    rw [trim, trimRight, ← List.reverse_append, ← hcut, List.reverse_reverse]
  rw [List.append_assoc, ← hright]
  exact hbefore

end Text

/-! ## Letters of units -/

namespace TenorUnit

variable {c : Char} {u : TenorUnit}

theorem toNat_toUpper (c : Char) :
    c.toUpper.toNat = if 97 ≤ c.toNat ∧ c.toNat ≤ 122 then c.toNat - 32 else c.toNat := by
  have hrange : 'a'.val ≤ c.val ∧ c.val ≤ 'z'.val ↔ 97 ≤ c.toNat ∧ c.toNat ≤ 122 := Iff.rfl
  by_cases h : 97 ≤ c.toNat ∧ c.toNat ≤ 122
  · have hupper : c.toUpper.toNat = (c.val + ('A'.val - 'a'.val)).toNat := by
      unfold Char.toUpper
      rw [dif_pos (hrange.2 h)]
      rfl
    have hshift : ('A'.val - 'a'.val).toNat = 2 ^ 32 - 32 := rfl
    rw [if_pos h, hupper, UInt32.toNat_add, hshift]
    show (c.toNat + _) % _ = _
    omega
  · unfold Char.toUpper
    rw [if_neg h, dif_neg (mt hrange.1 h)]

theorem ofCode?_eq_some_iff_toUpper : ofCode? c = some u ↔ c.toUpper = u.code := by
  unfold ofCode?
  constructor
  · intro h
    split at h
    next hc => exact Option.some.inj h ▸ hc
    next hc => exact Option.some.inj h ▸ hc
    next hc => exact Option.some.inj h ▸ hc
    next hc => exact Option.some.inj h ▸ hc
    next => simp at h
  · intro h
    rw [h]
    cases u <;> rfl

/-- The letters of a unit are its code in either case. -/
theorem ofCode?_eq_some_iff : ofCode? c = some u ↔ c = u.code ∨ c = u.code.toLower := by
  have hcode : 65 ≤ u.code.toNat ∧ u.code.toNat ≤ 90 ∧ u.code.toLower.toNat = u.code.toNat + 32 := by
    cases u <;> decide
  rw [ofCode?_eq_some_iff_toUpper]
  simp only [← Char.toNat_inj]
  rw [toNat_toUpper]
  split <;> omega

theorem not_isBlank_of_letter (h : c = u.code ∨ c = u.code.toLower) : Text.isBlank c = false := by
  rcases h with rfl | rfl <;> cases u <;> decide

end TenorUnit

/-! ## Amounts -/

namespace Numeral

variable {limit n : Nat} {cs digits : List Char}

/-- A nonempty run of digits with a value, which any number of zeros may stand in front of. -/
structure IsNumeral (n : Nat) (digits : List Char) : Prop where
  ne_nil : digits ≠ []
  isDigit : ∀ c ∈ digits, c.isDigit = true
  value : Nat.ofDigitChars 10 digits 0 = n

theorem ofDigits?_eq_some_iff : ofDigits? cs = some n ↔ IsNumeral n cs := by
  rw [ofDigits?]
  by_cases h : cs ≠ [] ∧ cs.all Char.isDigit
  · rw [if_pos h, Option.some.injEq]
    refine ⟨fun hvalue => ⟨h.1, List.all_eq_true.1 h.2, hvalue⟩, fun hcs => hcs.value⟩
  · rw [if_neg h]
    refine ⟨fun hsome => by simp at hsome, fun hcs => ?_⟩
    exact absurd ⟨hcs.ne_nil, List.all_eq_true.2 hcs.isDigit⟩ h

theorem IsNumeral.exists_cons (h : IsNumeral n digits) :
    ∃ d ds, digits = d :: ds ∧ d.isDigit = true := by
  obtain ⟨d, ds, rfl⟩ := List.exists_cons_of_ne_nil h.ne_nil
  exact ⟨d, ds, rfl, h.isDigit d List.mem_cons_self⟩

/-- A numeral with one optional plus sign and an upper bound. -/
theorem ofUnsigned?_eq_some_iff : ofUnsigned? limit cs = some n ↔
    n ≤ limit ∧ ∃ sign digits, cs = sign ++ digits ∧ (sign = [] ∨ sign = ['+']) ∧ IsNumeral n digits := by
  have hread : ∀ body, (ofDigits? body).filter (· ≤ limit) = some n ↔ n ≤ limit ∧ IsNumeral n body := by
    intro body
    rw [Option.filter_eq_some_iff, ofDigits?_eq_some_iff, decide_eq_true_iff, and_comm]
  unfold ofUnsigned?
  split
  next rest =>
    rw [hread]
    refine and_congr_right fun _ => ⟨fun h => ⟨['+'], rest, rfl, Or.inr rfl, h⟩, ?_⟩
    rintro ⟨sign, digits, heq, rfl | rfl, h⟩
    · -- A plus sign is no digit, so it is not left out.
      obtain ⟨d, ds, rfl, hd⟩ := h.exists_cons
      obtain ⟨rfl, -⟩ := List.cons.inj heq
      exact absurd hd (by decide)
    · obtain ⟨-, rfl⟩ := List.cons.inj heq
      exact h
  next hplus =>
    rw [hread]
    refine and_congr_right fun _ => ⟨fun h => ⟨[], cs, rfl, Or.inl rfl, h⟩, ?_⟩
    rintro ⟨sign, digits, rfl, rfl | rfl, h⟩
    · exact h
    · exact absurd rfl (hplus digits)

end Numeral

/-! ## Tenors -/

namespace Tenor

variable {t u : Tenor} {cs : List Char} {s : String}

/-- The characters that stand for a tenor: an optional letter `P` in either case, an optional plus sign, a
numeral of the amount and the letter of the unit in either case. -/
inductive Spells (t : Tenor) : List Char → Prop where
  | intro (mark sign digits : List Char) (letter : Char) : mark = [] ∨ mark = ['P'] ∨ mark = ['p'] →
    sign = [] ∨ sign = ['+'] → Numeral.IsNumeral t.amount digits →
    letter = t.unit.code ∨ letter = t.unit.code.toLower → Spells t (mark ++ sign ++ digits ++ [letter])

/-- The texts that stand for a tenor have blanks around its characters, or none. -/
def SpelledBy (t : Tenor) (s : String) : Prop :=
  ∃ before body after, s.toList = before ++ body ++ after ∧ (∀ c ∈ before, Text.isBlank c = true) ∧
    (∀ c ∈ after, Text.isBlank c = true) ∧ t.Spells body

/-! ### The reader on trimmed characters -/

theorem exists_dropPeriodMark (cs : List Char) :
    ∃ mark, cs = mark ++ dropPeriodMark cs ∧ (mark = [] ∨ mark = ['P'] ∨ mark = ['p']) := by
  unfold dropPeriodMark
  split
  next rest => exact ⟨['P'], rfl, Or.inr (Or.inl rfl)⟩
  next rest => exact ⟨['p'], rfl, Or.inr (Or.inr rfl)⟩
  next => exact ⟨[], rfl, Or.inl rfl⟩

/-- Only one letter is dropped, so it must not be looked for where the amount begins. -/
theorem dropPeriodMark_append {mark : List Char} (hmark : mark = [] ∨ mark = ['P'] ∨ mark = ['p'])
    (hhead : ∀ c ∈ cs.head?, c ≠ 'P' ∧ c ≠ 'p') : dropPeriodMark (mark ++ cs) = cs := by
  rcases hmark with rfl | rfl | rfl
  · show dropPeriodMark cs = cs
    unfold dropPeriodMark
    split
    next rest => exact absurd rfl (hhead 'P' rfl).1
    next rest => exact absurd rfl (hhead 'p' rfl).2
    next => rfl
  · rfl
  · rfl

theorem readAmount_eq_ok_iff {unit : TenorUnit} : readAmount unit cs = .ok t ↔
    t.unit = unit ∧ Numeral.ofUnsigned? maxAmount cs = some t.amount := by
  have hamount : ∀ n, ofAmount? n unit = some t ↔ t.unit = unit ∧ n = t.amount := by
    intro n
    unfold ofAmount?
    split
    next hn =>
      rw [Option.some.injEq]
      constructor
      · rintro rfl
        exact ⟨rfl, rfl⟩
      · rintro ⟨rfl, rfl⟩
        rfl
    next hn =>
      refine ⟨fun h => by simp at h, ?_⟩
      rintro ⟨-, rfl⟩
      exact absurd t.amount_lt hn
  have hread : ((Numeral.ofUnsigned? maxAmount cs).bind (ofAmount? · unit)) = some t ↔
      t.unit = unit ∧ Numeral.ofUnsigned? maxAmount cs = some t.amount := by
    simp only [Option.bind_eq_some_iff, hamount]
    constructor
    · rintro ⟨n, hn, hunit, rfl⟩
      exact ⟨hunit, hn⟩
    · rintro ⟨hunit, hn⟩
      exact ⟨_, hn, hunit, rfl⟩
  rw [readAmount, ← hread]
  by_cases hnil : cs = []
  · subst hnil
    simp [Numeral.ofUnsigned?, Numeral.ofDigits?]
  · rw [if_neg hnil]
    cases (Numeral.ofUnsigned? maxAmount cs).bind (ofAmount? · unit) <;> simp

theorem read_eq_ok_iff_body : read cs = .ok t ↔ ∃ amount letter,
    dropPeriodMark cs = amount ++ [letter] ∧ TenorUnit.ofCode? letter = some t.unit ∧
      Numeral.ofUnsigned? maxAmount amount = some t.amount := by
  simp only [read]
  rcases List.eq_nil_or_concat (dropPeriodMark cs) with hnil | ⟨amount, letter, hbody⟩
  · rw [hnil]
    simp
  · rw [List.concat_eq_append] at hbody
    rw [hbody]
    simp only [List.getLast?_concat, List.dropLast_concat]
    constructor
    · intro h
      cases hunit : TenorUnit.ofCode? letter with
      | none => simp [hunit] at h
      | some unit =>
        simp only [hunit] at h
        obtain ⟨rfl, hamount⟩ := readAmount_eq_ok_iff.1 h
        exact ⟨amount, letter, rfl, hunit, hamount⟩
    · rintro ⟨amount', letter', heq, hunit, hamount⟩
      obtain ⟨rfl, hlast⟩ := List.append_inj' heq rfl
      obtain ⟨rfl, -⟩ := List.cons.inj hlast
      simp only [hunit]
      exact readAmount_eq_ok_iff.2 ⟨rfl, hamount⟩

/-- Without blanks around them, the reader accepts exactly the characters that stand for a tenor. -/
theorem read_eq_ok_iff : read cs = .ok t ↔ t.Spells cs := by
  have hlimit : t.amount ≤ maxAmount := Nat.le_sub_one_of_lt t.amount_lt
  simp only [read_eq_ok_iff_body, TenorUnit.ofCode?_eq_some_iff, Numeral.ofUnsigned?_eq_some_iff]
  constructor
  · rintro ⟨amount, letter, hbody, hletter, -, sign, digits, rfl, hsign, hdigits⟩
    obtain ⟨mark, hcs, hmark⟩ := exists_dropPeriodMark cs
    rw [hcs, hbody, ← List.append_assoc, ← List.append_assoc]
    exact .intro mark sign digits letter hmark hsign hdigits hletter
  · rintro ⟨mark, sign, digits, letter, hmark, hsign, hdigits, hletter⟩
    refine ⟨sign ++ digits, letter, ?_, hletter, hlimit, sign, digits, rfl, hsign, hdigits⟩
    rw [List.append_assoc mark, List.append_assoc mark]
    refine dropPeriodMark_append hmark fun c hc => ?_
    -- The amount begins with a sign or a digit.
    obtain ⟨d, ds, rfl, hd⟩ := hdigits.exists_cons
    rcases hsign with rfl | rfl
    · obtain rfl := Option.some.inj hc
      constructor
      · rintro rfl
        exact absurd hd (by decide)
      · rintro rfl
        exact absurd hd (by decide)
    · obtain rfl := Option.some.inj hc
      decide

/-! ### The reader on texts -/

theorem Spells.trim_eq (h : t.Spells cs) : Text.trim cs = cs := by
  obtain ⟨mark, sign, digits, letter, hmark, hsign, hdigits, hletter⟩ := h
  refine Text.trim_eq_self (fun c hc => ?_) fun c hc => ?_
  · obtain ⟨d, ds, rfl, hd⟩ := hdigits.exists_cons
    rcases hmark with rfl | rfl | rfl
    · rcases hsign with rfl | rfl
      · obtain rfl := Option.some.inj hc
        exact Text.not_isBlank_of_isDigit hd
      · obtain rfl := Option.some.inj hc
        decide
    · obtain rfl := Option.some.inj hc
      decide
    · obtain rfl := Option.some.inj hc
      decide
  · rw [List.getLast?_concat] at hc
    obtain rfl := Option.some.inj hc
    exact TenorUnit.not_isBlank_of_letter hletter

theorem spelledBy_iff : t.SpelledBy s ↔ t.Spells (Text.trim s.toList) := by
  constructor
  · rintro ⟨before, body, after, hs, hbefore, hafter, hbody⟩
    rw [hs, Text.trim_append hbefore hafter, hbody.trim_eq]
    exact hbody
  · intro h
    obtain ⟨before, after, hs, hbefore, hafter⟩ := Text.exists_trim s.toList
    exact ⟨before, _, after, hs, hbefore, hafter, h⟩

/-- A text is read as a tenor if it stands for it. -/
theorem parse_eq_ok_iff : parse s = .ok t ↔ t.SpelledBy s := by
  rw [spelledBy_iff, ← read_eq_ok_iff, parse]
  cases read (Text.trim s.toList) <;> simp [Except.mapError]

theorem exists_fault_of_parse {e : ValueError} (h : parse s = .error e) :
    ∃ fault, e = .invalidTenor s fault := by
  rw [parse] at h
  cases hread : read (Text.trim s.toList) with
  | ok t =>
    rw [hread] at h
    simp [Except.mapError] at h
  | error fault =>
    rw [hread] at h
    exact ⟨fault, (Except.error.inj h).symm⟩

/-- The letter `P` may stand before the text of a tenor. -/
theorem parse_isoText (t : Tenor) : parse t.isoText = .ok t := by
  have hdigits : Numeral.IsNumeral t.amount (Numeral.digits t.amount) :=
    Numeral.ofDigits?_eq_some_iff.1 (Numeral.ofDigits?_digits t.amount)
  refine parse_eq_ok_iff.2 ⟨[], 'P' :: t.chars, [], ?_, by simp, by simp, ?_⟩
  · simp [isoText, text]
  · exact .intro ['P'] [] _ _ (Or.inr (Or.inl rfl)) (Or.inl rfl) hdigits (Or.inl rfl)

/-- Tenors are written alike only if they are the same. -/
theorem text_injective (h : t.text = u.text) : t = u := by
  have ht := parse_text t
  rw [h, parse_text u] at ht
  exact (Except.ok.inj ht).symm

/-- A text is read as a tenor exactly if it stands for it, and all other texts are refused as no tenors. Both
ways of writing a tenor are read as this tenor, so two texts stand for one tenor if and only if what they are
read as is written alike. -/
theorem parse_grammar :
    (∀ s t, parse s = .ok t ↔ t.SpelledBy s) ∧
    (∀ s, (¬ ∃ t : Tenor, t.SpelledBy s) ↔ ∃ fault, parse s = .error (.invalidTenor s fault)) ∧
    (∀ t : Tenor, parse t.text = .ok t ∧ parse t.isoText = .ok t) ∧
    ∀ s s' t t', parse s = .ok t → parse s' = .ok t' → (t = t' ↔ t.text = t'.text) := by
  refine ⟨fun s t => parse_eq_ok_iff, fun s => ?_, fun t => ⟨parse_text t, parse_isoText t⟩,
    fun s s' t t' _ _ => ⟨congrArg text, text_injective⟩⟩
  simp only [← parse_eq_ok_iff]
  constructor
  · intro hnone
    cases hs : parse s with
    | ok t => exact absurd ⟨t, hs⟩ hnone
    | error e =>
      obtain ⟨fault, rfl⟩ := exists_fault_of_parse hs
      exact ⟨fault, rfl⟩
  · rintro ⟨fault, hs⟩ ⟨t, ht⟩
    rw [hs] at ht
    simp at ht

/-- Three months with all that may be added, and as they are written. The amount of 32 bits ends below the
number in the last text, whatever its zeros. -/
theorem parse_grammar_spellings : ∃ t t' : Tenor,
    parse "\u2003p+0003m\n" = .ok t ∧ parse "3M" = .ok t' ∧ t = t' ∧ t.text = t'.text ∧
    (¬ ∃ t : Tenor, t.SpelledBy "P3 M") ∧ ¬ ∃ t : Tenor, t.SpelledBy "04294967296D" := by
  obtain ⟨-, hrefused, -, hwritten⟩ := parse_grammar
  have hlong : parse "\u2003p+0003m\n" = .ok ⟨3, .months, by decide⟩ := by decide +kernel
  have hshort : parse "3M" = .ok ⟨3, .months, by decide⟩ := by decide +kernel
  refine ⟨_, _, hlong, hshort, rfl, (hwritten _ _ _ _ hlong hshort).1 rfl, ?_, ?_⟩
  · exact (hrefused _).2 ⟨.badAmount "3 ", by decide +kernel⟩
  · exact (hrefused _).2 ⟨.badAmount "04294967296", by decide +kernel⟩

end Tenor

end TermStructure
