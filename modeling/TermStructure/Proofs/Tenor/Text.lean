import TermStructure.Tenor.Reader

/-!
# Texts of tenors

The text of a tenor reads as this tenor (`Tenor.parse_text`): it has no blanks around it and begins
with a digit, so nothing is dropped from it, and the unit is its last character.
-/

namespace TermStructure

/-! ## Digits -/

namespace Numeral

theorem digits_ne_nil (n : Nat) : digits n ≠ [] :=
  Nat.toDigits_ne_nil

theorem isDigit_of_mem_digits {n : Nat} {c : Char} (h : c ∈ digits n) : c.isDigit = true :=
  Nat.isDigit_of_mem_toDigits (by decide) (by decide) h

theorem ofUnsigned?_digits {limit n : Nat} (h : n ≤ limit) :
    ofUnsigned? limit (digits n) = some n := by
  have hbody : ∀ cs : List Char, (∀ c ∈ cs, c.isDigit = true) →
      ofUnsigned? limit cs = (ofDigits? cs).filter (· ≤ limit) := by
    intro cs hdigits
    unfold ofUnsigned?
    split
    · exact absurd (hdigits '+' List.mem_cons_self) (by decide)
    · rfl
  rw [hbody _ fun c hc => isDigit_of_mem_digits hc, ofDigits?_digits]
  simp [h]

end Numeral

/-! ## Blanks -/

namespace Text

theorem not_isBlank_of_isDigit {c : Char} (h : c.isDigit = true) : isBlank c = false := by
  have hrange : 48 ≤ c.toNat ∧ c.toNat ≤ 57 := by
    simpa [Char.isDigit, UInt32.le_iff_toNat_le] using h
  simp only [isBlank, Bool.or_eq_false_iff, Bool.and_eq_false_iff, decide_eq_false_iff_not,
    beq_eq_false_iff_ne]
  omega

theorem trimLeft_of_head {cs : List Char} (h : ∀ c ∈ cs.head?, isBlank c = false) :
    trimLeft cs = cs := by
  cases cs with
  | nil => rfl
  | cons c cs => exact trimLeft_eq_self (h c rfl)

/-- Nothing is trimmed from a text that neither begins nor ends with a blank. -/
theorem trim_eq_self {cs : List Char} (hfirst : ∀ c ∈ cs.head?, isBlank c = false)
    (hlast : ∀ c ∈ cs.getLast?, isBlank c = false) : trim cs = cs := by
  have hreverse : trimLeft cs.reverse = cs.reverse := by
    refine trimLeft_of_head ?_
    rwa [List.head?_reverse]
  rw [trim, trimLeft_of_head hfirst, trimRight, hreverse, List.reverse_reverse]

end Text

/-! ## Tenors -/

namespace Tenor

theorem head_chars (t : Tenor) : ∀ c ∈ t.chars.head?, c.isDigit = true := by
  intro c hc
  obtain ⟨d, ds, hds⟩ := List.exists_cons_of_ne_nil (Numeral.digits_ne_nil t.amount)
  rw [chars, hds] at hc
  obtain rfl : d = c := Option.some.inj hc
  refine Numeral.isDigit_of_mem_digits (n := t.amount) ?_
  rw [hds]
  exact List.mem_cons_self

theorem trim_chars (t : Tenor) : Text.trim t.chars = t.chars := by
  refine Text.trim_eq_self (fun c hc => Text.not_isBlank_of_isDigit (t.head_chars c hc)) ?_
  intro c hc
  rw [chars, List.getLast?_concat] at hc
  obtain rfl := Option.some.inj hc
  cases t.unit <;> decide

theorem dropPeriodMark_chars (t : Tenor) : dropPeriodMark t.chars = t.chars := by
  have hdigit := t.head_chars
  unfold dropPeriodMark
  split
  next heq => exact absurd (hdigit 'P' (by rw [heq]; rfl)) (by decide)
  next heq => exact absurd (hdigit 'p' (by rw [heq]; rfl)) (by decide)
  next => rfl

theorem readAmount_digits (t : Tenor) : readAmount t.unit (Numeral.digits t.amount) = .ok t := by
  have hlimit : t.amount ≤ maxAmount := Nat.le_sub_one_of_lt t.amount_lt
  have htenor : ofAmount? t.amount t.unit = some t := dif_pos t.amount_lt
  rw [readAmount, if_neg (Numeral.digits_ne_nil _), Numeral.ofUnsigned?_digits hlimit,
    Option.bind_some, htenor]

theorem read_chars (t : Tenor) : read t.chars = .ok t := by
  simp only [read, dropPeriodMark_chars]
  simp only [chars, List.getLast?_concat, TenorUnit.ofCode?_code, List.dropLast_concat,
    readAmount_digits]

/-- The text of a tenor reads as this tenor. -/
theorem parse_text (t : Tenor) : parse t.text = .ok t := by
  rw [parse, text, String.toList_ofList, trim_chars, read_chars]
  rfl

end Tenor

end TermStructure
