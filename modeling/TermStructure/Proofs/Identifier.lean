import Mathlib.Data.List.TakeWhile
import TermStructure.Identifier
import TermStructure.Proofs.Document.Restored
import TermStructure.Proofs.Tenor.Text

/-!
# Texts of identifiers

The reader accepts a text exactly if, without the blanks around it, it is a scheme without tildes, a tilde and
a value (`Identifier.parse_eq_ok_iff`). So the text of an identifier that was read is the text that it was read
from, and is read as the same identifier again. An identifier that was not read may hold any two texts; it is
read from its own text if it is one that could have been read (`Identifier.parse_text_iff`).
-/

namespace TermStructure

namespace Text

variable {cs : List Char}

theorem not_isBlank_head_trimLeft : ∀ c ∈ (trimLeft cs).head?, isBlank c = false := by
  intro c hc
  have hhead := List.head?_dropWhile_not isBlank cs
  rw [← trimLeft, Option.mem_def.1 hc] at hhead
  exact hhead

theorem not_isBlank_head_trim : ∀ c ∈ (trim cs).head?, isBlank c = false := by
  intro c hc
  -- Only the end of the text is cut, so it begins as it did before.
  have hprefix : trim cs <+: trimLeft cs := by
    rw [trim, trimRight, ← List.reverse_suffix, List.reverse_reverse]
    exact List.dropWhile_suffix _
  obtain ⟨cut, hcut⟩ := hprefix
  have hhead : c ∈ (trimLeft cs).head? := by
    rw [← hcut, List.head?_append, Option.mem_def.1 hc]
    rfl
  exact not_isBlank_head_trimLeft c hhead

theorem not_isBlank_getLast_trim : ∀ c ∈ (trim cs).getLast?, isBlank c = false := by
  intro c hc
  rw [trim, trimRight, List.getLast?_reverse] at hc
  exact not_isBlank_head_trimLeft c hc

/-- Nothing is trimmed from exactly those texts that neither begin nor end with a blank. -/
theorem trim_eq_self_iff : trim cs = cs ↔
    (∀ c ∈ cs.head?, isBlank c = false) ∧ ∀ c ∈ cs.getLast?, isBlank c = false := by
  constructor
  · intro h
    rw [← h]
    exact ⟨not_isBlank_head_trim, not_isBlank_getLast_trim⟩
  · rintro ⟨hfirst, hlast⟩
    exact trim_eq_self hfirst hlast

/-- What is trimmed has no blanks around it any more. -/
theorem trim_trim (cs : List Char) : trim (trim cs) = trim cs :=
  trim_eq_self_iff.2 ⟨not_isBlank_head_trim, not_isBlank_getLast_trim⟩

end Text

namespace Identifier

variable {cs scheme value : List Char} {id : Identifier} {s : String}

/-! ## Reading -/

theorem splitTilde?_append (h : '~' ∉ scheme) (value : List Char) :
    splitTilde? (scheme ++ '~' :: value) = some (scheme, value) := by
  induction scheme with
  | nil => simp [splitTilde?]
  | cons c scheme ih =>
    obtain ⟨hc, hscheme⟩ := not_or.1 (mt List.mem_cons.2 h)
    rw [List.cons_append, splitTilde?, if_neg (Ne.symm hc), ih hscheme]
    rfl

/-- A text is split at its first tilde. -/
theorem splitTilde?_eq_some_iff : splitTilde? cs = some (scheme, value) ↔
    cs = scheme ++ '~' :: value ∧ '~' ∉ scheme := by
  constructor
  · intro h
    induction cs generalizing scheme with
    | nil => simp [splitTilde?] at h
    | cons c cs ih =>
      rw [splitTilde?] at h
      by_cases hc : c = '~'
      · rw [if_pos hc] at h
        obtain ⟨rfl, rfl⟩ := Prod.mk.inj (Option.some.inj h)
        exact ⟨by rw [hc, List.nil_append], List.not_mem_nil⟩
      · rw [if_neg hc] at h
        obtain ⟨p, hp, hpair⟩ := Option.map_eq_some_iff.1 h
        obtain ⟨rfl, rfl⟩ := Prod.mk.inj hpair
        obtain ⟨hsplit, hfirst⟩ := ih hp
        refine ⟨by rw [hsplit, List.cons_append], ?_⟩
        exact List.not_mem_cons_of_ne_of_not_mem (Ne.symm hc) hfirst
  · rintro ⟨rfl, h⟩
    exact splitTilde?_append h value

/-- Both parts hold something, and the first tilde is the one between them. -/
structure HasParts (id : Identifier) : Prop where
  scheme_ne : id.scheme ≠ ""
  value_ne : id.value ≠ ""
  not_mem_scheme : '~' ∉ id.scheme.toList

theorem toList_text (id : Identifier) :
    id.text.toList = id.scheme.toList ++ '~' :: id.value.toList := by
  simp [text]

theorem read?_eq_some_iff : read? cs = some id ↔ cs = id.text.toList ∧ id.HasParts := by
  rw [toList_text]
  constructor
  · intro h
    rw [read?] at h
    split at h
    next scheme value hsplit =>
      obtain ⟨rfl, hfirst⟩ := splitTilde?_eq_some_iff.1 hsplit
      split at h
      · simp at h
      next hparts =>
        obtain ⟨hscheme, hvalue⟩ := not_or.1 hparts
        obtain rfl := Option.some.inj h
        refine ⟨by simp, by simpa using hscheme, by simpa using hvalue, by simpa using hfirst⟩
    · simp at h
  · rintro ⟨rfl, hscheme, hvalue, hfirst⟩
    have hparts : ¬ (id.scheme.toList = [] ∨ id.value.toList = []) := by simp [hscheme, hvalue]
    rw [read?, splitTilde?_append hfirst]
    simp only [if_neg hparts, String.ofList_toList]

/-- An identifier is read from its own text with any blanks around it, provided that it has parts which can be
told apart. -/
theorem parse_eq_ok_iff : parse s = .ok id ↔ Text.trim s.toList = id.text.toList ∧ id.HasParts := by
  rw [← read?_eq_some_iff, parse]
  cases read? (Text.trim s.toList) <;> simp

/-- An identifier that was read is written as it stood there, without blanks around it. -/
theorem text_of_parse (h : parse s = .ok id) : id.text.toList = Text.trim s.toList :=
  (parse_eq_ok_iff.1 h).1.symm

/-- The text of an identifier that was read is read as this identifier. -/
theorem parse_text (h : parse s = .ok id) : parse id.text = .ok id := by
  obtain ⟨htext, hparts⟩ := parse_eq_ok_iff.1 h
  rw [parse_eq_ok_iff, ← htext, Text.trim_trim]
  exact ⟨rfl, hparts⟩

theorem parse_cases (s : String) :
    parse s = .error (.invalidIdentifier s) ∨ ∃ id, parse s = .ok id := by
  rw [parse]
  cases read? (Text.trim s.toList) <;> simp

/-! ## Identifiers that were not read -/

/-- An identifier has parts that can be told apart, and its text neither begins nor ends with a blank. -/
structure IsReadable (id : Identifier) : Prop extends id.HasParts where
  first : ∀ c ∈ id.scheme.toList.head?, Text.isBlank c = false
  last : ∀ c ∈ id.value.toList.getLast?, Text.isBlank c = false

theorem head?_text (h : id.scheme ≠ "") : id.text.toList.head? = id.scheme.toList.head? := by
  obtain ⟨c, cs, hcs⟩ := List.exists_cons_of_ne_nil (mt String.toList_eq_nil_iff.1 h)
  rw [toList_text, hcs]
  rfl

theorem getLast?_text (h : id.value ≠ "") : id.text.toList.getLast? = id.value.toList.getLast? := by
  have hne : id.value.toList ≠ [] := mt String.toList_eq_nil_iff.1 h
  rw [toList_text, List.getLast?_append, List.getLast?_cons]
  simp [List.getLast?_eq_some_getLast hne]

/-- An identifier is read from its own text if it could have been read from one. -/
theorem parse_text_iff : parse id.text = .ok id ↔ id.IsReadable := by
  rw [parse_eq_ok_iff, Text.trim_eq_self_iff]
  constructor
  · rintro ⟨⟨hfirst, hlast⟩, hparts⟩
    rw [head?_text hparts.scheme_ne] at hfirst
    rw [getLast?_text hparts.value_ne] at hlast
    exact ⟨hparts, hfirst, hlast⟩
  · rintro ⟨hparts, hfirst, hlast⟩
    rw [head?_text hparts.scheme_ne, getLast?_text hparts.value_ne]
    exact ⟨⟨hfirst, hlast⟩, hparts⟩

theorem parse_text_region (code : String) : parse (region code).text = .ok (region code) ↔
    code ≠ "" ∧ ∀ c ∈ code.toList.getLast?, Text.isBlank c = false := by
  rw [parse_text_iff]
  constructor
  · intro h
    exact ⟨h.value_ne, h.last⟩
  · rintro ⟨hcode, hlast⟩
    have hne : regionScheme ≠ "" := by decide
    have htilde : '~' ∉ regionScheme.toList := by decide
    have hhead : regionScheme.toList.head? = some 'F' := by decide
    have hfirst : ∀ c ∈ regionScheme.toList.head?, Text.isBlank c = false := by
      rw [hhead]
      rintro c hc
      obtain rfl := Option.some.inj hc
      decide
    exact ⟨⟨hne, hcode, htilde⟩, hfirst, hlast⟩

theorem restored_iff_isReadable :
    Restored Decode.identifier Encode.identifier id ↔ id.IsReadable := by
  have hread : DocumentFormat.json.parse Decode.identifier (Json.compact (Encode.identifier id)) =
      Decode.check .value (parse id.text) := DocumentFormat.parse_compact_ofText _ _
  rw [Restored, hread, Decode.check_eq_ok_iff, parse_text_iff]

/-- An identifier that was read is written as it stood there, without the blanks around it, and is read from this
text again. Of all identifiers, those are read from their own text, in a document or not, whose scheme is
nonempty, holds no tilde and does not begin with a blank, and whose value is nonempty and does not end with
one. The text of any other is refused, or read as another identifier. -/
theorem texts_restored :
    (∀ s id, parse s = .ok id →
      id.text = String.ofList (Text.trim s.toList) ∧ parse id.text = .ok id) ∧
    (∀ scheme value, parse (text ⟨scheme, value⟩) = .ok ⟨scheme, value⟩ ↔
      IsReadable ⟨scheme, value⟩) ∧
    (∀ scheme value, ¬ IsReadable ⟨scheme, value⟩ →
      parse (text ⟨scheme, value⟩) = .error (.invalidIdentifier (text ⟨scheme, value⟩)) ∨
        ∃ id, id ≠ ⟨scheme, value⟩ ∧ parse (text ⟨scheme, value⟩) = .ok id) ∧
    (∀ code, parse (region code).text = .ok (region code) ↔
      code ≠ "" ∧ ∀ c ∈ code.toList.getLast?, Text.isBlank c = false) ∧
    ∀ id, Restored Decode.identifier Encode.identifier id ↔ id.IsReadable := by
  refine ⟨fun s id h => ⟨?_, parse_text h⟩, fun scheme value => parse_text_iff,
    fun scheme value hnot => ?_, parse_text_region, fun id => restored_iff_isReadable⟩
  · rw [← text_of_parse h, String.ofList_toList]
  · refine (parse_cases _).imp_right ?_
    rintro ⟨id, hid⟩
    refine ⟨id, ?_, hid⟩
    rintro rfl
    exact hnot (parse_text_iff.1 hid)

/-- A value may hold tildes, and blanks may stand around the tilde between the parts. A scheme with a tilde is read
as a shorter one, and one of blanks only is lost. -/
theorem texts_restored_tildes :
    (parse "\t TICKER ~ A~B\u3000" = .ok ⟨"TICKER ", " A~B"⟩ ∧
      parse "TICKER ~ A~B" = .ok ⟨"TICKER ", " A~B"⟩) ∧
    parse (text ⟨"TICKER", "A "⟩) = .ok ⟨"TICKER", "A"⟩ ∧
    (¬ IsReadable ⟨"TICKER~A", "B"⟩ ∧ ∃ id, id ≠ ⟨"TICKER~A", "B"⟩ ∧
      parse (text ⟨"TICKER~A", "B"⟩) = .ok id) ∧
    (¬ IsReadable ⟨" ", "B"⟩ ∧ parse (text ⟨" ", "B"⟩) = .error (.invalidIdentifier " ~B")) := by
  obtain ⟨hread, -, hother, -⟩ := texts_restored
  have hticker : parse "\t TICKER ~ A~B\u3000" = .ok ⟨"TICKER ", " A~B"⟩ := by decide +kernel
  have htilde : ¬ IsReadable ⟨"TICKER~A", "B"⟩ := fun h => absurd h.not_mem_scheme (by decide)
  have hblank : ¬ IsReadable ⟨" ", "B"⟩ := fun h => absurd (h.first ' ' rfl) (by decide)
  refine ⟨⟨hticker, (hread _ _ hticker).2⟩, by decide +kernel, ⟨htilde, ?_⟩, hblank, ?_⟩
  · refine (hother _ _ htilde).resolve_left ?_
    decide +kernel
  · refine (hother _ _ hblank).resolve_right ?_
    rintro ⟨id, -, hid⟩
    have hrefused : (parse (text ⟨" ", "B"⟩)).toOption = none := by decide +kernel
    rw [hid] at hrefused
    exact nomatch hrefused

end Identifier

end TermStructure
