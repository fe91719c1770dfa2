import TermStructure.Json.Reader
import TermStructure.Json.Writer

/-!
# Tokens of parts of a text

The tokens of a text do not change when punctuation follows it (`lex_append`): every token either
ends with its last character, as strings do, or is a number, which no punctuation continues. A string
that is written with escapes is one token (`lex_stringChars`).
-/

namespace TermStructure.Json

/-- A text that is at its end or goes on with punctuation. -/
def Delimited (cs : List Char) : Prop :=
  ∀ c ∈ cs.head?, (punctuation? c).isSome

theorem delimited_nil : Delimited [] := by
  simp [Delimited]

theorem delimited_cons {c : Char} {cs : List Char} (h : (punctuation? c).isSome) :
    Delimited (c :: cs) := by
  simpa [Delimited] using h

/-- What holds of all marks holds of punctuation. -/
theorem all_of_punctuation {p : Char → Bool} (hp : "[]\x7b\x7d,:".toList.all p = true) {c : Char}
    (h : (punctuation? c).isSome) : p c = true := by
  refine List.all_eq_true.1 hp c ?_
  unfold punctuation? at h
  split at h <;> first | decide | simp at h

theorem not_blank_of_punctuation {c : Char} (h : (punctuation? c).isSome) :
    isJsonBlank c = false := by
  have hnot := all_of_punctuation (p := fun c => !isJsonBlank c) (by decide) h
  simpa using hnot

/-! ## Numbers -/

section Numbers

variable {cs tail rest : List Char}

theorem not_isDigit_of_delimited (h : Delimited tail) : ∀ c ∈ tail.head?, c.isDigit = false := by
  intro c hc
  have hnot := all_of_punctuation (p := fun c => !c.isDigit) (by decide) (h c hc)
  simpa using hnot

theorem takeWhile_isDigit_append (h : Delimited tail) (cs : List Char) :
    (cs ++ tail).takeWhile Char.isDigit = cs.takeWhile Char.isDigit := by
  induction cs with
  | nil =>
    cases tail with
    | nil => rfl
    | cons c rest => simp [not_isDigit_of_delimited h c rfl]
  | cons c cs ih =>
    by_cases hc : c.isDigit = true
    · simp [hc, ih]
    · simp [hc]

theorem dropWhile_isDigit_append (h : Delimited tail) (cs : List Char) :
    (cs ++ tail).dropWhile Char.isDigit = cs.dropWhile Char.isDigit ++ tail := by
  induction cs with
  | nil =>
    cases tail with
    | nil => rfl
    | cons c rest => simp [not_isDigit_of_delimited h c rfl]
  | cons c cs ih =>
    by_cases hc : c.isDigit = true
    · simp [hc, ih]
    · simp [hc]

theorem scanDigits?_append (h : Delimited tail) {digits : List Char}
    (hs : scanDigits? cs = some (digits, rest)) :
    scanDigits? (cs ++ tail) = some (digits, rest ++ tail) := by
  simp only [scanDigits?] at hs ⊢
  rw [takeWhile_isDigit_append h, dropWhile_isDigit_append h]
  split at hs
  · simp at hs
  next hne =>
    obtain ⟨rfl, rfl⟩ := Prod.mk.inj (Option.some.inj hs)
    rw [if_neg hne]

theorem scanWhole?_append (h : Delimited tail) {digits : List Char}
    (hs : scanWhole? cs = some (digits, rest)) :
    scanWhole? (cs ++ tail) = some (digits, rest ++ tail) := by
  obtain ⟨digits', rest', hd⟩ : ∃ digits' rest', scanDigits? cs = some (digits', rest') := by
    cases hd : scanDigits? cs with
    | none => simp [scanWhole?, hd] at hs
    | some p => exact ⟨p.1, p.2, rfl⟩
  rw [scanWhole?, hd] at hs
  rw [scanWhole?, scanDigits?_append h hd]
  split at hs
  next heq =>
    obtain ⟨rfl, rfl⟩ := Prod.mk.inj (Option.some.inj heq)
    obtain ⟨rfl, rfl⟩ := Prod.mk.inj (Option.some.inj hs)
    rfl
  · simp at hs
  next hzero hzeros =>
    obtain ⟨rfl, rfl⟩ := Prod.mk.inj (Option.some.inj hs)
    split
    next heq =>
      obtain ⟨rfl, -⟩ := Prod.mk.inj (Option.some.inj heq)
      exact absurd rfl (hzero _)
    next heq =>
      obtain ⟨rfl, -⟩ := Prod.mk.inj (Option.some.inj heq)
      exact absurd rfl (hzeros _ _)
    · rfl

theorem scanFraction?_of_delimited (h : Delimited tail) : scanFraction? tail = some (none, tail) := by
  cases tail with
  | nil => rfl
  | cons c rest =>
    have hne : c ≠ '.' := by
      rintro rfl
      exact absurd (h _ rfl) (by decide)
    simp [scanFraction?, hne]

theorem scanFraction?_append (h : Delimited tail) {fraction : Option (List Char)}
    (hs : scanFraction? cs = some (fraction, rest)) :
    scanFraction? (cs ++ tail) = some (fraction, rest ++ tail) := by
  cases cs with
  | nil =>
    obtain ⟨rfl, rfl⟩ := Prod.mk.inj (Option.some.inj hs)
    exact scanFraction?_of_delimited h
  | cons c cs =>
    by_cases hc : c = '.'
    · subst hc
      simp only [scanFraction?, Option.map_eq_some_iff, List.cons_append] at hs ⊢
      obtain ⟨⟨digits, more⟩, hd, heq⟩ := hs
      obtain ⟨rfl, rfl⟩ := Prod.mk.inj heq
      exact ⟨_, scanDigits?_append h hd, rfl⟩
    · have hdefault : ∀ cs, scanFraction? (c :: cs) = some (none, c :: cs) := by
        intro cs
        simp [scanFraction?, hc]
      rw [hdefault] at hs
      obtain ⟨rfl, rfl⟩ := Prod.mk.inj (Option.some.inj hs)
      exact hdefault _

theorem scanSignedDigits?_append (h : Delimited tail) {exponent : Option (Bool × List Char)}
    (hs : scanSignedDigits? cs = some (exponent, rest)) :
    scanSignedDigits? (cs ++ tail) = some (exponent, rest ++ tail) := by
  cases cs with
  | nil => simp [scanSignedDigits?, scanDigits?] at hs
  | cons c cs =>
    by_cases hsign : c = '-' ∨ c = '+'
    · rcases hsign with rfl | rfl
      all_goals
        simp only [scanSignedDigits?, Option.map_eq_some_iff, List.cons_append] at hs ⊢
        obtain ⟨⟨digits, more⟩, hd, heq⟩ := hs
        obtain ⟨rfl, rfl⟩ := Prod.mk.inj heq
        exact ⟨_, scanDigits?_append h hd, rfl⟩
    · have hdefault : ∀ cs, scanSignedDigits? (c :: cs) =
          (scanDigits? (c :: cs)).map fun p => (some (false, p.1), p.2) := by
        intro cs
        rw [not_or] at hsign
        simp [scanSignedDigits?, hsign.1, hsign.2]
      rw [hdefault, Option.map_eq_some_iff] at hs
      obtain ⟨⟨digits, more⟩, hd, heq⟩ := hs
      obtain ⟨rfl, rfl⟩ := Prod.mk.inj heq
      rw [List.cons_append, hdefault, ← List.cons_append, scanDigits?_append h hd]
      rfl

theorem scanExponent?_of_delimited (h : Delimited tail) : scanExponent? tail = some (none, tail) := by
  cases tail with
  | nil => rfl
  | cons c rest =>
    have hne : ∀ e, (punctuation? e).isSome = false → c ≠ e := by
      rintro e he rfl
      rw [h _ rfl] at he
      simp at he
    simp [scanExponent?, hne 'e' (by decide), hne 'E' (by decide)]

theorem scanExponent?_append (h : Delimited tail) {exponent : Option (Bool × List Char)}
    (hs : scanExponent? cs = some (exponent, rest)) :
    scanExponent? (cs ++ tail) = some (exponent, rest ++ tail) := by
  cases cs with
  | nil =>
    obtain ⟨rfl, rfl⟩ := Prod.mk.inj (Option.some.inj hs)
    exact scanExponent?_of_delimited h
  | cons c cs =>
    by_cases hc : c = 'e' ∨ c = 'E'
    · rcases hc with rfl | rfl
      all_goals exact scanSignedDigits?_append h hs
    · have hdefault : ∀ cs, scanExponent? (c :: cs) = some (none, c :: cs) := by
        intro cs
        rw [not_or] at hc
        simp [scanExponent?, hc.1, hc.2]
      rw [hdefault] at hs
      obtain ⟨rfl, rfl⟩ := Prod.mk.inj (Option.some.inj hs)
      exact hdefault _

/-- The number after its sign, and the text after it. -/
def scanUnsigned? (negative : Bool) (cs : List Char) : Option (NumberText × List Char) := do
  let (whole, cs) ← scanWhole? cs
  let (fraction, cs) ← scanFraction? cs
  let (exponent, cs) ← scanExponent? cs
  return (⟨negative, whole, fraction, exponent⟩, cs)

theorem scanNumber?_cons {c : Char} (hc : c ≠ '-') (cs : List Char) :
    scanNumber? (c :: cs) = scanUnsigned? false (c :: cs) := by
  simp [scanNumber?, scanUnsigned?, hc]

theorem scanUnsigned?_append (h : Delimited tail) {negative : Bool} {number : NumberText}
    (hs : scanUnsigned? negative cs = some (number, rest)) :
    scanUnsigned? negative (cs ++ tail) = some (number, rest ++ tail) := by
  simp only [scanUnsigned?, Option.bind_eq_bind, Option.bind_eq_some_iff, Option.pure_def,
    Option.some.injEq, Prod.mk.injEq] at hs ⊢
  obtain ⟨⟨whole, r1⟩, hw, ⟨fraction, r2⟩, hf, ⟨exponent, r3⟩, he, rfl, rfl⟩ := hs
  exact ⟨_, scanWhole?_append h hw, _, scanFraction?_append h hf, _, scanExponent?_append h he,
    rfl, rfl⟩

theorem scanNumber?_append (h : Delimited tail) {number : NumberText}
    (hs : scanNumber? cs = some (number, rest)) :
    scanNumber? (cs ++ tail) = some (number, rest ++ tail) := by
  cases cs with
  | nil => simp [scanNumber?, scanWhole?, scanDigits?] at hs
  | cons c cs =>
    by_cases hc : c = '-'
    · subst hc
      exact scanUnsigned?_append h hs
    · rw [scanNumber?_cons hc] at hs
      rw [List.cons_append, scanNumber?_cons hc]
      exact scanUnsigned?_append h hs

end Numbers

/-! ## Strings -/

section Strings

variable {cs tail rest : List Char}

theorem scanString?_quote (rest : List Char) : scanString? ('"' :: rest) = some (some [], rest) := by
  rw [scanString?]

theorem scanString?_escape {c : Option Char} (h : scanEscape? cs = some (c, rest)) :
    scanString? ('\\' :: cs) = (scanString? rest).map (pushChar c) := by
  rw [scanString?]
  split
  next hnone => simp [h] at hnone
  next c' rest' hsome =>
    rw [h] at hsome
    obtain ⟨rfl, rfl⟩ := Prod.mk.inj (Option.some.inj hsome)
    rfl

theorem scanString?_badEscape (h : scanEscape? cs = none) : scanString? ('\\' :: cs) = none := by
  rw [scanString?]
  split
  · rfl
  next hsome => simp [h] at hsome

theorem scanString?_plain {c : Char} (hquote : c ≠ '"') (hbackslash : c ≠ '\\')
    (hcontrol : ¬ c.toNat < 0x20) (cs : List Char) :
    scanString? (c :: cs) = (scanString? cs).map (pushChar (some c)) := by
  rw [scanString?, if_neg hcontrol]
  · simpa using hquote
  · simpa using hbackslash

/-- A string that comes to its end does not stop within the escape of half of a surrogate pair. -/
theorem secondHalf_of_append (h : (scanString? rest).isSome) {a b c d : Char} {more : List Char}
    (heq : rest ++ tail = '\\' :: 'u' :: a :: b :: c :: d :: more) :
    ∃ more', rest = '\\' :: 'u' :: a :: b :: c :: d :: more' := by
  have hshort : ∀ cs, scanEscape? cs = none → (scanString? ('\\' :: cs)).isSome → False := by
    intro cs hnone hsome
    simp [scanString?_badEscape hnone] at hsome
  rcases rest with _ | ⟨x1, _ | ⟨x2, _ | ⟨x3, _ | ⟨x4, _ | ⟨x5, _ | ⟨x6, more'⟩⟩⟩⟩⟩⟩
  all_goals simp only [List.nil_append, List.cons_append, List.cons.injEq] at heq
  · simp [scanString?] at h
  · obtain ⟨rfl, -⟩ := heq
    exact (hshort _ rfl h).elim
  · obtain ⟨rfl, rfl, -⟩ := heq
    exact (hshort _ rfl h).elim
  · obtain ⟨rfl, rfl, rfl, -⟩ := heq
    exact (hshort _ rfl h).elim
  · obtain ⟨rfl, rfl, rfl, rfl, -⟩ := heq
    exact (hshort _ rfl h).elim
  · obtain ⟨rfl, rfl, rfl, rfl, rfl, -⟩ := heq
    exact (hshort _ rfl h).elim
  · obtain ⟨rfl, rfl, rfl, rfl, rfl, rfl, -⟩ := heq
    exact ⟨more', rfl⟩

/-- What the escape of a first half stands for, and the text after it: the character of the pair, if
the escape of a second half follows. -/
def closePair (n : Nat) (cs : List Char) : Option Char × List Char :=
  match cs with
  | '\\' :: 'u' :: a :: b :: c :: d :: rest =>
    match Numeral.ofHex? [a, b, c, d] with
    | some m => if isLowSurrogate m then (some (pairChar n m), rest) else (none, cs)
    | none => (none, cs)
  | _ => (none, cs)

theorem closePair_of_ne (n : Nat)
    (h : ¬ ∃ a b c d rest, cs = '\\' :: 'u' :: a :: b :: c :: d :: rest) :
    closePair n cs = (none, cs) := by
  unfold closePair
  split
  · exact absurd ⟨_, _, _, _, _, rfl⟩ h
  · rfl

theorem scanEscape?_unicode (a b c d : Char) (cs : List Char) :
    scanEscape? ('u' :: a :: b :: c :: d :: cs) =
      (Numeral.ofHex? [a, b, c, d]).map fun n =>
        if isHighSurrogate n then closePair n cs
        else if isLowSurrogate n then (none, cs) else (some (Char.ofNat n), cs) := by
  cases hn : Numeral.ofHex? [a, b, c, d] with
  | none => simp only [scanEscape?, hn, Option.map_none]
  | some n =>
    simp only [scanEscape?, hn, Option.map_some]
    split
    · by_cases hpair : ∃ a b c d rest, cs = '\\' :: 'u' :: a :: b :: c :: d :: rest
      · obtain ⟨a, b, c, d, rest, rfl⟩ := hpair
        simp only [closePair]
        cases Numeral.ofHex? [a, b, c, d] with
        | none => rfl
        | some m => dsimp only; split <;> rfl
      · rw [closePair_of_ne n hpair]
        split
        · exact absurd ⟨_, _, _, _, _, rfl⟩ hpair
        · rfl
    · split <;> rfl

theorem closePair_append {n : Nat} {c : Option Char} (hs : closePair n cs = (c, rest))
    (hend : (scanString? rest).isSome) : closePair n (cs ++ tail) = (c, rest ++ tail) := by
  by_cases hpair : ∃ a b c d rest, cs = '\\' :: 'u' :: a :: b :: c :: d :: rest
  · obtain ⟨a, b, c', d, more, rfl⟩ := hpair
    simp only [closePair, List.cons_append] at hs ⊢
    split at hs
    next m hm =>
      split at hs
      all_goals
        obtain ⟨rfl, rfl⟩ := Prod.mk.inj hs
        simp [*]
    next hm =>
      obtain ⟨rfl, rfl⟩ := Prod.mk.inj hs
      rfl
  · -- What follows must not complete an escape that the string ends within.
    rw [closePair_of_ne n hpair] at hs
    obtain ⟨rfl, rfl⟩ := Prod.mk.inj hs
    refine closePair_of_ne n ?_
    rintro ⟨a, b, c, d, more, heq⟩
    obtain ⟨more', rfl⟩ := secondHalf_of_append hend heq
    exact hpair ⟨a, b, c, d, more', rfl⟩

/-- After the first half of a surrogate pair an escape looks ahead for the second half. A string that
comes to its end holds all that is looked at. -/
theorem scanEscape?_append {c : Option Char} (hs : scanEscape? cs = some (c, rest))
    (hend : (scanString? rest).isSome) : scanEscape? (cs ++ tail) = some (c, rest ++ tail) := by
  by_cases hunicode : ∃ a b c d body, cs = 'u' :: a :: b :: c :: d :: body
  · obtain ⟨x1, x2, x3, x4, body, rfl⟩ := hunicode
    simp only [List.cons_append, scanEscape?_unicode, Option.map_eq_some_iff] at hs ⊢
    obtain ⟨n, hn, hs⟩ := hs
    refine ⟨n, hn, ?_⟩
    split at hs
    next hhigh => rw [if_pos hhigh, closePair_append hs hend]
    next hhigh =>
      rw [if_neg hhigh]
      split at hs
      all_goals
        obtain ⟨rfl, rfl⟩ := Prod.mk.inj hs
        simp [*]
  · unfold scanEscape? at hs
    split at hs
    case h_9 => exact absurd ⟨_, _, _, _, _, rfl⟩ hunicode
    case h_10 => simp at hs
    all_goals
      obtain ⟨rfl, rfl⟩ := Prod.mk.inj (Option.some.inj hs)
      rfl

theorem scanString?_append {s : Option (List Char)} (hs : scanString? cs = some (s, rest)) :
    scanString? (cs ++ tail) = some (s, rest ++ tail) := by
  fun_induction scanString? cs generalizing s rest with
  | case1 => simp at hs
  | case2 more =>
    obtain ⟨rfl, rfl⟩ := Prod.mk.inj (Option.some.inj hs)
    exact scanString?_quote _
  | case3 => simp at hs
  | case4 more c rest' he ih =>
    obtain ⟨⟨s', r'⟩, hr, heq⟩ := Option.map_eq_some_iff.1 hs
    obtain ⟨rfl, rfl⟩ := Prod.mk.inj heq
    have hend : (scanString? rest').isSome := by simp [hr]
    rw [List.cons_append, scanString?_escape (scanEscape?_append he hend), ih hr]
    rfl
  | case5 => simp at hs
  | case6 c rest' hquote hbackslash hcontrol ih =>
    obtain ⟨⟨s', r'⟩, hr, heq⟩ := Option.map_eq_some_iff.1 hs
    obtain ⟨rfl, rfl⟩ := Prod.mk.inj heq
    rw [List.cons_append, scanString?_plain hquote hbackslash hcontrol, ih hr]
    rfl

/-! ### Written strings -/

theorem ofHex?_digitChars {n : Nat} (h : n < 0x20) :
    Numeral.ofHex? ['0', '0', Nat.digitChar (n / 16), Nat.digitChar (n % 16)] = some n := by
  revert n
  decide

/-- A written character is read as this character. -/
theorem scanString?_escapeChar (c : Char) (cs : List Char) :
    scanString? (escapeChar c ++ cs) = (scanString? cs).map (pushChar (some c)) := by
  unfold escapeChar
  split
  case h_8 hquote hbackslash _ _ _ _ _ =>
    split
    next hcontrol =>
      refine scanString?_escape ?_
      have hhigh : isHighSurrogate c.toNat = false := by simp [isHighSurrogate]; omega
      have hlow : isLowSurrogate c.toNat = false := by simp [isLowSurrogate]; omega
      have hread := scanEscape?_unicode '0' '0' (Nat.digitChar (c.toNat / 16))
        (Nat.digitChar (c.toNat % 16)) cs
      rw [ofHex?_digitChars hcontrol] at hread
      simpa [hhigh, hlow] using hread
    next hcontrol => exact scanString?_plain hquote hbackslash hcontrol cs
  all_goals exact scanString?_escape rfl

theorem scanString?_stringChars (s cs : List Char) :
    scanString? (s.flatMap escapeChar ++ '"' :: cs) = some (some s, cs) := by
  induction s with
  | nil => exact scanString?_quote cs
  | cons c s ih =>
    rw [List.flatMap_cons, List.append_assoc, scanString?_escapeChar, ih]
    rfl

end Strings

/-! ## Texts -/

variable {c : Char} {cs tail rest : List Char}

theorem scanNumber?_head {number : NumberText} (hs : scanNumber? (c :: cs) = some (number, rest)) :
    c = '-' ∨ c.isDigit = true := by
  by_cases hminus : c = '-'
  · exact Or.inl hminus
  · refine Or.inr (Decidable.not_not.1 fun hdigit => ?_)
    rw [Bool.not_eq_true] at hdigit
    rw [scanNumber?_cons hminus] at hs
    simp [scanUnsigned?, scanWhole?, scanDigits?, hdigit] at hs

/-- A leaf that begins with a minus sign or a digit is a number. -/
theorem scanLeaf?_number (h : c = '-' ∨ c.isDigit = true) (cs : List Char) :
    scanLeaf? c cs =
      (scanNumber? (c :: cs)).map fun (t, rest) => (.leaf (.number t.number), rest) := by
  have hne : ∀ d, d ≠ '-' → d.isDigit = false → c ≠ d := by
    rintro d hminus hdigit rfl
    rcases h with h | h
    · exact hminus h
    · simp [hdigit] at h
  unfold scanLeaf?
  split
  · exact absurd rfl (hne '"' (by decide) (by decide))
  · exact absurd rfl (hne 'n' (by decide) (by decide))
  · exact absurd rfl (hne 't' (by decide) (by decide))
  · exact absurd rfl (hne 'f' (by decide) (by decide))
  · rfl

theorem scanLeaf?_append (h : Delimited tail) {t : Token} (hs : scanLeaf? c cs = some (t, rest)) :
    scanLeaf? c (cs ++ tail) = some (t, rest ++ tail) := by
  unfold scanLeaf? at hs
  split at hs
  case h_1 =>
    obtain ⟨⟨s, more⟩, hscan, heq⟩ := Option.map_eq_some_iff.1 hs
    obtain ⟨rfl, rfl⟩ := Prod.mk.inj heq
    simp only [scanLeaf?, scanString?_append hscan, Option.map_some]
  case h_5 =>
    obtain ⟨⟨number, more⟩, hscan, heq⟩ := Option.map_eq_some_iff.1 hs
    obtain ⟨rfl, rfl⟩ := Prod.mk.inj heq
    rw [scanLeaf?_number (scanNumber?_head hscan), ← List.cons_append, scanNumber?_append h hscan]
    rfl
  all_goals
    obtain ⟨rfl, rfl⟩ := Prod.mk.inj (Option.some.inj hs)
    rfl

theorem lex_blank (h : isJsonBlank c = true) (cs : List Char) : lex (c :: cs) = lex cs := by
  rw [lex, if_pos h]

theorem lex_punctuation {t : Token} (h : punctuation? c = some t) (cs : List Char) :
    lex (c :: cs) = t :: lex cs := by
  have hblank := not_blank_of_punctuation (c := c) (by simp [h])
  rw [lex, if_neg (by simp [hblank])]
  simp [h]

theorem lex_leaf (hblank : isJsonBlank c = false) (hpunctuation : punctuation? c = none) {t : Token}
    (h : scanLeaf? c cs = some (t, rest)) : lex (c :: cs) = t :: lex rest := by
  rw [lex, if_neg (by simp [hblank])]
  simp only [hpunctuation]
  split
  next t' rest' hs =>
    rw [h] at hs
    obtain ⟨rfl, rfl⟩ := Prod.mk.inj (Option.some.inj hs)
    rfl
  next hs => simp [h] at hs

/-- A text that is lexed to its end gives the same tokens in front of punctuation. -/
theorem lex_append (h : Delimited tail) (hgood : Token.bad ∉ lex cs) :
    lex (cs ++ tail) = lex cs ++ lex tail := by
  fun_induction lex cs with
  | case1 => rfl
  | case2 c cs hblank ih => rw [List.cons_append, lex_blank hblank, ih hgood]
  | case3 c cs hblank t hpunctuation ih =>
    rw [List.mem_cons, not_or] at hgood
    rw [List.cons_append, lex_punctuation hpunctuation, ih hgood.2, List.cons_append]
  | case4 c cs hblank hpunctuation t more hscan ih =>
    rw [List.mem_cons, not_or] at hgood
    rw [Bool.not_eq_true] at hblank
    rw [List.cons_append, lex_leaf hblank hpunctuation (scanLeaf?_append h hscan), ih hgood.2,
      List.cons_append]
  | case5 => exact absurd (List.mem_singleton_self _) hgood

/-- A written string is one token. -/
theorem lex_stringChars (s cs : List Char) :
    lex (stringChars s ++ cs) = .string (some (String.ofList s)) :: lex cs := by
  have hscan : scanLeaf? '"' (s.flatMap escapeChar ++ '"' :: cs) =
      some (.string (some (String.ofList s)), cs) := by
    simp only [scanLeaf?, scanString?_stringChars, Option.map_some]
  have hchars : stringChars s ++ cs = '"' :: (s.flatMap escapeChar ++ '"' :: cs) := by
    simp [stringChars]
  rw [hchars]
  exact lex_leaf (by decide) (by decide) hscan

end TermStructure.Json
