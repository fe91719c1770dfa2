import Mathlib.Data.List.TakeWhile
import TermStructure.Proofs.Json.Documents
import TermStructure.Proofs.Tenor.Text

/-!
# Written numbers

An integer is written with its digits and, if it is negative, a minus sign. Integers of 64 bits are read
back as they are (`Json.ReadsBack.ofInt`): the digits have no zero in front, so they are one number, and all
of them fit into its significand. A double that is no number is written as null (`Json.readsBack_notFinite`).
-/

namespace TermStructure

namespace Numeral

theorem digitChar_ne_zero {n : Nat} (hlt : n < 10) (h : n ≠ 0) : Nat.digitChar n ≠ '0' := by
  revert n
  decide

/-- The digits of a positive number do not begin with zero. -/
theorem head_digits_ne {n : Nat} (h : n ≠ 0) : ∀ c ∈ (digits n).head?, c ≠ '0' := by
  induction n using Nat.strongRecOn with
  | ind n ih =>
    rw [digits, Nat.toDigits_eq_if (by decide)]
    split
    next hlt =>
      rintro c ⟨⟩
      exact digitChar_ne_zero hlt h
    next hge =>
      have hhead := ih (n / 10) (by omega) (by omega)
      rwa [← digits, List.head?_append_of_ne_nil _ (digits_ne_nil _)]

end Numeral

namespace Json

variable {cs : List Char} {n : Nat}

/-! ## Scanning digits -/

theorem absorb_eq {significand : Nat} (h : Nat.ofDigitChars 10 cs significand ≤ maxSignificand) :
    absorb significand cs = (Nat.ofDigitChars 10 cs significand, []) := by
  induction cs generalizing significand with
  | nil => rfl
  | cons c cs ih =>
    rw [Nat.ofDigitChars_cons] at h ⊢
    -- More digits only make a number greater, so none of its beginnings is too great.
    have hle : 10 * significand + (c.toNat - '0'.toNat) ≤ maxSignificand := by
      rw [Nat.ofDigitChars_eq_ofDigitChars_zero] at h
      exact Nat.le_trans (Nat.le_mul_of_pos_left _ (Nat.pow_pos (by decide)))
        (Nat.le_trans (Nat.le_add_right _ _) h)
    rw [absorb, if_pos hle, ih h]

theorem scanDigits?_of_all (hdigits : ∀ c ∈ cs, c.isDigit = true) (hne : cs ≠ []) :
    scanDigits? cs = some (cs, []) := by
  have htake : cs.takeWhile Char.isDigit = cs := List.takeWhile_eq_self_iff.2 hdigits
  have hdrop : cs.dropWhile Char.isDigit = [] := List.dropWhile_eq_nil_iff.2 hdigits
  simp only [scanDigits?, htake, hdrop, if_neg hne]

theorem scanWhole?_digits (n : Nat) :
    scanWhole? (Numeral.digits n) = some (Numeral.digits n, []) := by
  have hscan := scanDigits?_of_all (fun c hc => Numeral.isDigit_of_mem_digits hc)
    (Numeral.digits_ne_nil n)
  rcases Nat.eq_zero_or_pos n with rfl | hpos
  · rfl
  · obtain ⟨c, ds, hds⟩ := List.exists_cons_of_ne_nil (Numeral.digits_ne_nil n)
    have hc : c ≠ '0' := Numeral.head_digits_ne (Nat.ne_of_gt hpos) c (by rw [hds]; rfl)
    rw [hds] at hscan ⊢
    simp [scanWhole?, hscan, hc]

/-- The parts of the text of an integer. -/
def integerText (n : Int) : NumberText :=
  ⟨decide (n < 0), Numeral.digits n.natAbs, none, none⟩

theorem scanNumber?_intChars (n : Int) : scanNumber? (intChars n) = some (integerText n, []) := by
  have hunsigned : ∀ negative, scanUnsigned? negative (Numeral.digits n.natAbs) =
      some (⟨negative, Numeral.digits n.natAbs, none, none⟩, []) := by
    intro negative
    simp [scanUnsigned?, scanWhole?_digits, scanFraction?, scanExponent?]
  rw [intChars, integerText]
  split
  next hneg =>
    rw [decide_eq_true hneg]
    exact hunsigned true
  next hneg =>
    obtain ⟨c, ds, hds⟩ := List.exists_cons_of_ne_nil (Numeral.digits_ne_nil n.natAbs)
    have hc : c ≠ '-' := by
      rintro rfl
      exact absurd (Numeral.isDigit_of_mem_digits (n := n.natAbs) (by rw [hds]; exact List.mem_cons_self))
        (by decide)
    rw [decide_eq_false hneg, ← hunsigned false, hds, scanNumber?_cons hc]

/-! ## Values -/

theorem number_integerText {n : Int} (hlow : -2 ^ 63 ≤ n) (hhigh : n < 2 ^ 64) :
    (integerText n).number = .int n := by
  have habsorb : absorb 0 (Numeral.digits n.natAbs) = (n.natAbs, []) := by
    have hvalue : Nat.ofDigitChars 10 (Numeral.digits n.natAbs) 0 = n.natAbs :=
      Nat.ofDigitChars_ten_toDigits
    have hfits : n.natAbs ≤ maxSignificand := by
      rw [maxSignificand]
      omega
    rw [absorb_eq (by rwa [hvalue]), hvalue]
  simp only [NumberText.number, integerText, habsorb, intNumber, decide_eq_true_eq]
  by_cases hneg : n < 0
  · have hin : ¬ (n.natAbs = 0 ∨ 2 ^ 63 < n.natAbs) := by omega
    rw [if_neg (not_not_intro hneg), if_neg hin]
    congr 1
    omega
  · rw [if_pos hneg]
    congr 1
    omega

theorem lex_of_scanNumber? {c : Char} {number : NumberText}
    (h : scanNumber? (c :: cs) = some (number, [])) :
    lex (c :: cs) = [.leaf (.number number.number)] := by
  have hhead := scanNumber?_head h
  have hne : ∀ d, d ≠ '-' → d.isDigit = false → c ≠ d := by
    rintro d hminus hdigit rfl
    rcases hhead with hhead | hhead
    · exact hminus hhead
    · simp [hdigit] at hhead
  have hblank : isJsonBlank c = false := by
    simp [isJsonBlank, hne ' ' (by decide) (by decide), hne '\n' (by decide) (by decide),
      hne '\t' (by decide) (by decide), hne '\r' (by decide) (by decide)]
  have hpunctuation : punctuation? c = none := by
    refine Option.not_isSome_iff_eq_none.1 fun hsome => ?_
    have hmark := all_of_punctuation (p := fun c => c != '-' && !c.isDigit) (by decide) hsome
    rcases hhead with rfl | hdigit
    · simp at hmark
    · simp [hdigit] at hmark
  have hleaf : scanLeaf? c cs = some (.leaf (.number number.number), []) := by
    rw [scanLeaf?_number hhead, h]
    rfl
  rw [lex_leaf hblank hpunctuation hleaf, lex_nil]

theorem ReadsBack.ofInt {n : Int} (hlow : -2 ^ 63 ≤ n) (hhigh : n < 2 ^ 64) :
    ReadsBack (.number (.int n)) (.number (.int n)) := by
  have hscan := scanNumber?_intChars n
  refine readsBack_iff.2 ?_
  have htext : compactChars (.number (.int n)) = intChars n := by
    simp [compactChars, leafChars, numberChars]
  rw [read, compact, String.toList_ofList, htext]
  cases hchars : intChars n with
  | nil => simp [hchars, scanNumber?, scanWhole?, scanDigits?] at hscan
  | cons c cs =>
    rw [hchars] at hscan
    rw [lex_of_scanNumber? hscan, number_integerText hlow hhigh]
    rfl

/-- A double that is no number is written as null. -/
theorem compactChars_notFinite {x : Float} (h : x.isFinite = false) :
    compactChars (.ofFloat x) = ['n', 'u', 'l', 'l'] := by
  simp [Tree.ofFloat, compactChars, leafChars, numberChars, floatChars, h]

theorem readsBack_notFinite {x : Float} (h : x.isFinite = false) : ReadsBack (.ofFloat x) .null := by
  refine readsBack_iff.2 ?_
  rw [read, compact, compactChars_notFinite h, String.toList_ofList, lex_leaf (by decide) (by decide) rfl, lex_nil]
  rfl

end Json

end TermStructure
