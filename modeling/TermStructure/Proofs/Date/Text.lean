import TermStructure.Date.Reader
import TermStructure.Proofs.Date.Order
import TermStructure.Proofs.Tenor.Text

/-!
# Texts of dates

The text of a date reads as this date, whatever the reader skips after a number, if these are blanks only
(`Date.readWith_chars`). A run of digits is read up to the hyphen or the end: a year with a sign may have any
number of digits, and every other number has as many as its width (`Numeral.length_paddedDigits`).
-/

namespace TermStructure

/-! ## Padded digits -/

namespace Numeral

variable {width n : Nat}

theorem isDigit_of_mem_paddedDigits {c : Char} (h : c ∈ paddedDigits width n) : c.isDigit = true := by
  simp only [paddedDigits, List.mem_append, List.mem_replicate] at h
  rcases h with ⟨-, rfl⟩ | h
  · decide
  · exact isDigit_of_mem_digits h

theorem paddedDigits_ne_nil (width n : Nat) : paddedDigits width n ≠ [] := by
  simp [paddedDigits, digits_ne_nil]

theorem ofDigitChars_paddedDigits (width n : Nat) :
    Nat.ofDigitChars 10 (paddedDigits width n) 0 = n := by
  rw [paddedDigits, Nat.ofDigitChars_append, Nat.ofDigitChars_replicate_zero, Nat.mul_zero, digits,
    Nat.ofDigitChars_ten_toDigits]

/-- A number below the power of ten of a width is written in this width. -/
theorem length_paddedDigits (hwidth : 0 < width) (h : n < 10 ^ width) :
    (paddedDigits width n).length = width := by
  have hle : (digits n).length ≤ width := (Nat.length_toDigits_le_iff (by decide) hwidth).2 h
  simp only [paddedDigits, List.length_append, List.length_replicate]
  omega

/-- The first of the padded digits is a digit, whatever follows them. -/
theorem exists_cons_paddedDigits (width n : Nat) (tail : List Char) :
    ∃ c rest, paddedDigits width n ++ tail = c :: rest ∧ c.isDigit = true := by
  obtain ⟨c, ds, hds⟩ := List.exists_cons_of_ne_nil (paddedDigits_ne_nil width n)
  have hmem : c ∈ paddedDigits width n := by
    rw [hds]
    exact List.mem_cons_self
  exact ⟨c, ds ++ tail, by rw [hds, List.cons_append], isDigit_of_mem_paddedDigits hmem⟩

end Numeral

namespace Date

/-! ## Parts of a date -/

/-- No digit stands at the beginning of a text. -/
def Stops (tail : List Char) : Prop :=
  ∀ c ∈ tail.head?, c.isDigit = false

theorem readDigits_paddedDigits {width? : Option Nat} {width n : Nat} {tail : List Char}
    (htail : Stops tail) (hn : n < 2 ^ 63)
    (hwidth : ∀ w ∈ width?, (Numeral.paddedDigits width n).length ≤ w) :
    readDigits width? (Numeral.paddedDigits width n ++ tail) = .ok (n, tail) := by
  have hrun : (Numeral.paddedDigits width n ++ tail).takeWhile Char.isDigit =
      Numeral.paddedDigits width n := by
    rw [List.takeWhile_append_of_pos fun c hc => Numeral.isDigit_of_mem_paddedDigits hc]
    cases tail with
    | nil => simp
    | cons c tail => simp [htail c rfl]
  have hdrop : (Numeral.paddedDigits width n ++ tail).drop (Numeral.paddedDigits width n).length = tail :=
    List.drop_left
  obtain ⟨c, rest, hcons, -⟩ := Numeral.exists_cons_paddedDigits width n tail
  rw [hcons] at hrun hdrop ⊢
  have hne := Numeral.paddedDigits_ne_nil width n
  have hvalue := Numeral.ofDigitChars_paddedDigits width n
  cases width? with
  | none => simp only [readDigits, hrun, hne, hvalue, hn, hdrop, if_true, if_false]
  | some w =>
    have htake : (Numeral.paddedDigits width n).take w = Numeral.paddedDigits width n :=
      List.take_of_length_le (hwidth w rfl)
    simp only [readDigits, hrun, htake, hne, hvalue, hn, hdrop, if_true, if_false]

/-- A month or a day in two digits. -/
theorem readField_paddedDigits {limit n : Nat} {tail : List Char} (htail : Stops tail) (hpos : 1 ≤ n)
    (hlimit : n ≤ limit) (hn : n < 100) :
    readField limit (Numeral.paddedDigits 2 n ++ tail) = .ok (n, tail) := by
  obtain ⟨c, rest, hcons, hc⟩ := Numeral.exists_cons_paddedDigits 2 n tail
  have htrim : Text.trimLeft (Numeral.paddedDigits 2 n ++ tail) = Numeral.paddedDigits 2 n ++ tail := by
    rw [hcons]
    exact Text.trimLeft_eq_self (Text.not_isBlank_of_isDigit hc)
  have hlength : (Numeral.paddedDigits 2 n).length = 2 := Numeral.length_paddedDigits (by decide) hn
  have hread : readDigits (some 2) (Numeral.paddedDigits 2 n ++ tail) = .ok (n, tail) := by
    refine readDigits_paddedDigits htail (by omega) ?_
    rintro w ⟨⟩
    exact Nat.le_of_eq hlength
  rw [readField, htrim, hread]
  exact if_pos ⟨hpos, hlimit⟩

theorem readYear_yearChars {year : Int} {tail : List Char} (htail : Stops tail)
    (hyear : -262143 ≤ year ∧ year ≤ 262142) : readYear (yearChars year ++ tail) = .ok (year, tail) := by
  have hsigned : readDigits none (Numeral.paddedDigits 4 year.natAbs ++ tail) =
      .ok (year.natAbs, tail) := readDigits_paddedDigits htail (by omega) (by simp)
  rw [yearChars]
  by_cases hneg : year < 0
  · rw [if_pos hneg, List.cons_append, readYear, Text.trimLeft_eq_self (by decide)]
    have hvalue : -1 * (year.natAbs : Int) = year := by omega
    simp only [hsigned, Bind.bind, Except.bind, hvalue]
    exact if_pos (by omega)
  · rw [if_neg hneg]
    by_cases hlong : 9999 < year
    · rw [if_pos hlong, List.cons_append, readYear, Text.trimLeft_eq_self (by decide)]
      have hvalue : 1 * (year.natAbs : Int) = year := by omega
      simp only [hsigned, Bind.bind, Except.bind, hvalue]
      exact if_pos (by omega)
    · rw [if_neg hlong]
      obtain ⟨c, rest, hcons, hc⟩ := Numeral.exists_cons_paddedDigits 4 year.natAbs tail
      have hlength : (Numeral.paddedDigits 4 year.natAbs).length = 4 :=
        Numeral.length_paddedDigits (by decide) (by omega)
      have hread : readDigits (some 4) (c :: rest) = .ok (year.natAbs, tail) := by
        rw [← hcons]
        refine readDigits_paddedDigits htail (by omega) ?_
        rintro w ⟨⟩
        exact Nat.le_of_eq hlength
      have hvalue : (year.natAbs : Int) = year := by omega
      rw [hcons, readYear, Text.trimLeft_eq_self (Text.not_isBlank_of_isDigit hc)]
      split
      next heq =>
        obtain ⟨rfl, -⟩ := List.cons.inj heq
        exact absurd hc (by decide)
      next heq =>
        obtain ⟨rfl, -⟩ := List.cons.inj heq
        exact absurd hc (by decide)
      · rw [hread]
        change Except.ok ((year.natAbs : Int), tail) = _
        rw [hvalue]

/-! ## Whole dates -/

/-- A reader that skips nothing but blanks after a number reads the text of a date. -/
theorem readWith_chars {gap : List Char → List Char}
    (hgap : ∀ cs, (∀ c ∈ cs.head?, Text.isBlank c = false) → gap cs = cs) (d : Date) :
    readWith gap d.chars = .ok d := by
  have hhyphen : ∀ cs, gap ('-' :: cs) = '-' :: cs := fun cs => hgap _ (by rintro c ⟨⟩; decide)
  have hend : gap [] = [] := hgap [] (by simp)
  have hstops : ∀ cs, Stops ('-' :: cs) := by
    rintro cs c ⟨⟩
    decide
  have hmonth := d.month_mem
  have hday := d.day_le
  have hyear := readYear_yearChars (hstops (Numeral.paddedDigits 2 d.month ++ '-' ::
    (Numeral.paddedDigits 2 d.day ++ []))) d.year_mem
  have hmonths := readField_paddedDigits (hstops (Numeral.paddedDigits 2 d.day ++ [])) hmonth.1
    hmonth.2 (by omega)
  have hnil : Stops [] := by simp [Stops]
  have hdays := readField_paddedDigits hnil d.day_mem.1 hday (by omega)
  have hdate : ofYmd? d.year d.month d.day = some d := dif_pos ⟨d.year_mem, d.month_mem, d.day_mem⟩
  have hchars : d.chars = yearChars d.year ++ '-' :: (Numeral.paddedDigits 2 d.month ++ '-' ::
      (Numeral.paddedDigits 2 d.day ++ [])) := by
    simp [chars]
  rw [hchars, readWith, hyear]
  change (readHyphen (gap ('-' :: _))).bind _ = _
  rw [hhyphen]
  change (readField 12 _).bind _ = _
  rw [hmonths]
  change (readHyphen (gap ('-' :: _))).bind _ = _
  rw [hhyphen]
  change (readField 31 _).bind _ = _
  rw [hdays]
  change (if gap [] ≠ [] then _ else _) = _
  rw [hend, if_neg (not_not_intro rfl), hdate]

/-- The text of a date reads as this date in documents. -/
theorem ofText_text (d : Date) : ofText d.text = .ok d := by
  rw [ofText, text, String.toList_ofList]
  exact readWith_chars (fun cs => Text.trimLeft_of_head) d

end Date

end TermStructure
