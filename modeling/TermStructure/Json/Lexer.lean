import TermStructure.Json.Number

/-!
# Tokens of JSON documents

`lex` splits a text into punctuation, strings and other leaves; blanks between them are dropped. At
the first place where no token begins it ends with `bad`. Every scanner gives the rest of the text,
which is shorter than the text that it was given.
-/

namespace TermStructure.Json

inductive Token where
  | openArray
  | closeArray
  | openObject
  | closeObject
  | comma
  | colon
  | string (s : Key)
  | leaf (t : Tree)
  | bad

/-- The blanks between tokens. -/
def isJsonBlank (c : Char) : Bool :=
  c == ' ' || c == '\n' || c == '\t' || c == '\r'

/-! ## Strings -/

/-- Whether a code unit is the first half of a surrogate pair. -/
def isHighSurrogate (n : Nat) : Bool := 0xD800 ≤ n && n < 0xDC00

/-- Whether a code unit is the second half of a surrogate pair. -/
def isLowSurrogate (n : Nat) : Bool := 0xDC00 ≤ n && n < 0xE000

/-- The character of a surrogate pair. -/
def pairChar (high low : Nat) : Char :=
  Char.ofNat (0x10000 + (high - 0xD800) * 0x400 + (low - 0xDC00))

/-- The character of an escape after its backslash, and the text after it. Half of a surrogate pair
is an escape without a character. -/
def scanEscape? : List Char → Option (Option Char × List Char)
  | '"' :: rest => some (some '"', rest)
  | '\\' :: rest => some (some '\\', rest)
  | '/' :: rest => some (some '/', rest)
  | 'b' :: rest => some (some '\x08', rest)
  | 'f' :: rest => some (some '\x0c', rest)
  | 'n' :: rest => some (some '\n', rest)
  | 'r' :: rest => some (some '\r', rest)
  | 't' :: rest => some (some '\t', rest)
  | 'u' :: a :: b :: c :: d :: rest =>
    match Numeral.ofHex? [a, b, c, d] with
    | none => none
    | some n =>
      if isHighSurrogate n then
        match rest with
        | '\\' :: 'u' :: e :: f :: g :: h :: rest' =>
          match Numeral.ofHex? [e, f, g, h] with
          | some m => if isLowSurrogate m then some (some (pairChar n m), rest') else some (none, rest)
          | none => some (none, rest)
        | _ => some (none, rest)
      else if isLowSurrogate n then some (none, rest)
      else some (some (Char.ofNat n), rest)
  | _ => none

theorem length_of_scanEscape? {cs rest : List Char} {c : Option Char}
    (h : scanEscape? cs = some (c, rest)) : rest.length < cs.length := by
  unfold scanEscape? at h
  split at h
  case h_9 =>
    repeat' split at h
    all_goals cases h
    all_goals simp only [List.length_cons]
    all_goals omega
  case h_10 => cases h
  all_goals
    cases h
    simp

/-- Puts a character in front of the characters of a string; nothing if either is missing. -/
def pushChar (c : Option Char) (x : Option (List Char) × List Char) : Option (List Char) × List Char :=
  (c.bind fun c => x.1.map (c :: ·), x.2)

/-- The characters of a string after its opening quote, up to the closing one, and the text after
that. Control characters and unknown escapes are malformed. -/
def scanString? (cs : List Char) : Option (Option (List Char) × List Char) :=
  match cs with
  | [] => none
  | '"' :: rest => some (some [], rest)
  | '\\' :: rest =>
    match _h : scanEscape? rest with
    | none => none
    | some (c, more) => (scanString? more).map (pushChar c)
  | c :: rest => if c.toNat < 0x20 then none else (scanString? rest).map (pushChar (some c))
termination_by cs.length
decreasing_by
  · have := length_of_scanEscape? _h
    simp only [List.length_cons]
    omega
  · simp

theorem length_of_scanString? {cs rest : List Char} {s : Option (List Char)}
    (h : scanString? cs = some (s, rest)) : rest.length < cs.length := by
  fun_induction scanString? cs generalizing s rest with
  | case1 => cases h
  | case2 => cases h; simp
  | case3 => cases h
  | case4 more c rest' he ih =>
    obtain ⟨⟨s', r'⟩, hs, e⟩ := Option.map_eq_some_iff.1 h
    cases e
    have := ih hs
    have := length_of_scanEscape? he
    simp only [List.length_cons]
    omega
  | case5 => cases h
  | case6 c rest' _ _ _ ih =>
    obtain ⟨⟨s', r'⟩, hs, e⟩ := Option.map_eq_some_iff.1 h
    cases e
    have := ih hs
    simp only [List.length_cons]
    omega

/-! ## Numbers -/

theorem length_of_scanDigits? {cs digits rest : List Char} (h : scanDigits? cs = some (digits, rest)) :
    rest.length < cs.length := by
  simp only [scanDigits?] at h
  split at h
  · cases h
  · next hne =>
    cases h
    have e := congrArg List.length (List.takeWhile_append_dropWhile (p := Char.isDigit) (l := cs))
    have : 0 < (cs.takeWhile Char.isDigit).length := List.length_pos_iff.2 hne
    simp only [List.length_append] at e
    omega

theorem length_of_scanWhole? {cs digits rest : List Char} (h : scanWhole? cs = some (digits, rest)) :
    rest.length < cs.length := by
  unfold scanWhole? at h
  split at h
  · next h' => cases h; exact length_of_scanDigits? h'
  · cases h
  · exact length_of_scanDigits? h

theorem length_of_scanFraction? {cs rest : List Char} {f : Option (List Char)}
    (h : scanFraction? cs = some (f, rest)) : rest.length ≤ cs.length := by
  unfold scanFraction? at h
  split at h
  · obtain ⟨⟨d, r⟩, hd, e⟩ := Option.map_eq_some_iff.1 h
    cases e
    have := length_of_scanDigits? hd
    simp only [List.length_cons]
    omega
  · cases h; exact Nat.le_refl _

theorem length_of_scanExponent? {cs rest : List Char} {e : Option (Bool × List Char)}
    (h : scanExponent? cs = some (e, rest)) : rest.length ≤ cs.length := by
  have signed {cs rest : List Char} {e : Option (Bool × List Char)}
      (h : scanSignedDigits? cs = some (e, rest)) : rest.length ≤ cs.length := by
    unfold scanSignedDigits? at h
    split at h
    all_goals
      obtain ⟨⟨d, r⟩, hd, e⟩ := Option.map_eq_some_iff.1 h
      cases e
      have := length_of_scanDigits? hd
      simp only [List.length_cons] at *
      omega
  unfold scanExponent? at h
  split at h
  · have := signed h; simp only [List.length_cons]; omega
  · have := signed h; simp only [List.length_cons]; omega
  · cases h; exact Nat.le_refl _

theorem length_of_scanNumber? {cs rest : List Char} {t : NumberText}
    (h : scanNumber? cs = some (t, rest)) : rest.length < cs.length := by
  unfold scanNumber? at h
  simp only [Option.bind_eq_bind, Option.bind_eq_some_iff, Option.pure_def, Option.some.injEq,
    Prod.mk.injEq] at h
  obtain ⟨⟨w, r1⟩, hw, ⟨f, r2⟩, hf, ⟨e, r3⟩, he, -, hr⟩ := h
  have h1 : r1.length < cs.length := by
    split at hw
    · exact Nat.lt_succ_of_lt (length_of_scanWhole? hw)
    · exact length_of_scanWhole? hw
  have h2 := length_of_scanFraction? hf
  have h3 := length_of_scanExponent? he
  subst hr
  exact Nat.lt_of_le_of_lt h3 (Nat.lt_of_le_of_lt h2 h1)

/-! ## Tokens -/

/-- The token of a punctuation character. -/
def punctuation? (c : Char) : Option Token :=
  match c with
  | '[' => some .openArray
  | ']' => some .closeArray
  | '\x7b' => some .openObject
  | '\x7d' => some .closeObject
  | ',' => some .comma
  | ':' => some .colon
  | _ => none

/-- The token that begins with a character other than punctuation, and the text after it. -/
def scanLeaf? (c : Char) (rest : List Char) : Option (Token × List Char) :=
  match c, rest with
  | '"', rest => (scanString? rest).map fun (s, rest) => (.string (s.map String.ofList), rest)
  | 'n', 'u' :: 'l' :: 'l' :: rest => some (.leaf .null, rest)
  | 't', 'r' :: 'u' :: 'e' :: rest => some (.leaf (.bool true), rest)
  | 'f', 'a' :: 'l' :: 's' :: 'e' :: rest => some (.leaf (.bool false), rest)
  | c, rest => (scanNumber? (c :: rest)).map fun (t, rest) => (.leaf (.number t.number), rest)

theorem length_of_scanLeaf? {c : Char} {cs rest : List Char} {t : Token}
    (h : scanLeaf? c cs = some (t, rest)) : rest.length ≤ cs.length := by
  unfold scanLeaf? at h
  split at h
  · obtain ⟨⟨s, r⟩, hs, e⟩ := Option.map_eq_some_iff.1 h
    cases e
    exact Nat.le_of_lt (length_of_scanString? hs)
  · cases h; simp; omega
  · cases h; simp; omega
  · cases h; simp; omega
  · obtain ⟨⟨s, r⟩, hs, e⟩ := Option.map_eq_some_iff.1 h
    cases e
    exact Nat.le_of_lt_succ (length_of_scanNumber? hs)

/-- The tokens of a text, up to the first place where none begins. -/
def lex (cs : List Char) : List Token :=
  match cs with
  | [] => []
  | c :: rest =>
    if isJsonBlank c then lex rest
    else match punctuation? c with
      | some t => t :: lex rest
      | none =>
        match _h : scanLeaf? c rest with
        | some (t, more) => t :: lex more
        | none => [.bad]
termination_by cs.length
decreasing_by
  · simp
  · simp
  · have := length_of_scanLeaf? _h
    simp only [List.length_cons]
    omega

end TermStructure.Json
