import Mathlib.Data.List.Forall2
import TermStructure.File.Load
import TermStructure.Proofs.Document.Outcome
import TermStructure.Proofs.FirstOf
import TermStructure.Proofs.Tenor.Grammar

/-!
# Holiday files line by line

The reader of holiday files goes through records, not through lines: it has no notion of an empty line, and it
ends a record at a carriage return as well as at a line feed. In texts without quotes whose carriage returns
belong to line ends (`IsPlain`), it makes of each line what the line is by itself
(`dateTexts_of_isPlain`). The argument follows the reader through one line: where it stands between
the commas does not matter, only whether the first column is still open (`scan_column`), and after the
line it stands at the start of a record again, with nothing left over (`scan_line`).
-/

namespace TermStructure.HolidayText

variable {cs body line rest tail : List Char} {place : Place} {f : FirstColumn} {columns : List (List Char)}

/-! ## Lines -/

/-- A line without the carriage return at its end. -/
def withoutReturn (line : List Char) : List Char :=
  if line.getLast? = some '\r' then line.dropLast else line

/-- The lines of a text. They end with a line feed, which may have a carriage return before it. -/
def lines (text : String) : List (List Char) :=
  (text.toList.splitOn '\n').map withoutReturn

/-- What stands before the first comma of a line. -/
def beforeComma (line : List Char) : List Char :=
  line.takeWhile (· ≠ ',')

/-- The text of a date on a line: what stands before its first comma, without the blanks around it. There is none
if nothing is left, or if the line is empty or begins with `#`. -/
def dateText? (line : List Char) : Option String :=
  if line = [] ∨ line.head? = some '#' then none
  else if Text.trim (beforeComma line) = [] then none
  else some (String.ofList (Text.trim (beforeComma line)))

/-- A text without quotes and byte order marks, whose carriage returns stand directly before line feeds. -/
structure IsPlain (cs : List Char) : Prop where
  no_quote : '"' ∉ cs
  no_mark : '\uFEFF' ∉ cs
  feed_after_return : ∀ after, '\r' :: after <:+ cs → after.head? = some '\n'

theorem IsPlain.of_append {before : List Char} (h : IsPlain (before ++ rest)) : IsPlain rest where
  no_quote hmem := h.no_quote (List.mem_append_right _ hmem)
  no_mark hmem := h.no_mark (List.mem_append_right _ hmem)
  feed_after_return after hafter :=
    h.feed_after_return after (hafter.trans (List.suffix_append before rest))

/-- What holds of a text without line feeds, and of a line in front of a text of which it holds, holds of every
text. -/
theorem lines_induction {P : List Char → Prop} (last : ∀ line, '\n' ∉ line → P line)
    (cons : ∀ line rest, '\n' ∉ line → P rest → P (line ++ '\n' :: rest)) (cs : List Char) : P cs := by
  induction hlength : cs.length using Nat.strong_induction_on generalizing cs with
  | _ n ih =>
    by_cases hmem : '\n' ∈ cs
    · obtain ⟨line, rest, rfl, hline⟩ := List.eq_append_cons_of_mem hmem
      refine cons line rest hline (ih rest.length ?_ rest rfl)
      simp at hlength
      omega
    · exact last cs hmem

/-! ## The reader on one line -/

/-- A character that neither ends a line nor begins a quotation. -/
def IsInner (c : Char) : Prop :=
  isLineEnd c = false ∧ c ≠ '"'

/-- The first column after some more characters of its line. -/
def FirstColumn.after (f : FirstColumn) (body : List Char) : List Char :=
  f.chars ++ if f.isOpen then beforeComma body else []

/-- Where the reader stands between a line's characters: within a column, or at its start. -/
def IsInLine (place : Place) : Prop :=
  place = .column ∨ place = .columnStart

theorem step_of_isInner {c : Char} (hplace : IsInLine place) (hc : IsInner c) :
    step place c = if c = ',' then (.endColumn, .columnStart) else (.add, .column) := by
  have hcolumn : inColumn c = if c = ',' then (.endColumn, .columnStart) else (.add, .column) := by
    rw [inColumn, hc.1]
    rfl
  rcases hplace with rfl | rfl
  · exact hcolumn
  · exact (if_neg hc.2).trans hcolumn

/-- The reader within a line. What comes after the line is reached with the first column of the line, wherever the
reader stands. -/
theorem scan_column (hbody : ∀ c ∈ body, IsInner c)
    (htail : ∀ place f, IsInLine place → scan place f tail = f.chars :: columns)
    (hplace : IsInLine place) (f : FirstColumn) :
    scan place f (body ++ tail) = f.after body :: columns := by
  induction body generalizing place f with
  | nil =>
    rw [List.nil_append, htail place f hplace]
    simp [FirstColumn.after, beforeComma]
  | cons c body ih =>
    rw [List.forall_mem_cons] at hbody
    rw [List.cons_append, scan, step_of_isInner hplace hbody.1]
    by_cases hcomma : c = ','
    · rw [if_pos hcomma]
      change scan .columnStart f.close (body ++ tail) = _
      rw [ih hbody.2 (Or.inr rfl)]
      simp [FirstColumn.after, FirstColumn.close, FirstColumn.chars, beforeComma, hcomma]
    · rw [if_neg hcomma]
      change scan .column (f.add c) (body ++ tail) = _
      rw [ih hbody.2 (Or.inl rfl)]
      cases hopen : f.isOpen <;>
        simp [FirstColumn.after, FirstColumn.add, FirstColumn.chars, beforeComma, hcomma, hopen]

theorem scan_comment (hbody : ∀ c ∈ body, IsInner c) (f : FirstColumn) (tail : List Char) :
    scan .comment f (body ++ tail) = scan .comment f tail := by
  induction body with
  | nil => rfl
  | cons c body ih =>
    rw [List.forall_mem_cons] at hbody
    have hfeed : c ≠ '\n' := by
      rintro rfl
      exact absurd hbody.1.1 (by decide)
    rw [List.cons_append, scan, step, if_neg hfeed]
    exact ih hbody.2

/-- The first columns of a line: one, unless the line is empty or begins with `#`. -/
def record (line : List Char) : List (List Char) :=
  if line = [] ∨ line.head? = some '#' then [] else [beforeComma line]

/-- What follows a line ends it, and the reader then finds some columns. -/
structure EndsLine (tail : List Char) (columns : List (List Char)) : Prop where
  inLine : ∀ place f, IsInLine place → scan place f tail = f.chars :: columns
  atStart : scan .recordStart .start tail = columns
  inComment : scan .comment .start tail = columns

theorem endsLine_nil : EndsLine [] [] where
  inLine := by rintro place f (rfl | rfl) <;> rfl
  atStart := rfl
  inComment := rfl

theorem endsLine_feed (rest : List Char) :
    EndsLine ('\n' :: rest) (scan .recordStart .start rest) where
  inLine := by rintro place f (rfl | rfl) <;> rfl
  atStart := rfl
  inComment := rfl

/-- After a carriage return the reader is at the start of a record, where it skips the line feed. -/
theorem endsLine_return (rest : List Char) :
    EndsLine ('\r' :: '\n' :: rest) (scan .recordStart .start rest) where
  inLine := by rintro place f (rfl | rfl) <;> rfl
  atStart := rfl
  inComment := rfl

theorem scan_line (hbody : ∀ c ∈ body, IsInner c) (htail : EndsLine tail columns) :
    scan .recordStart .start (body ++ tail) = record body ++ columns := by
  cases body with
  | nil => exact htail.atStart
  | cons c body =>
    have hbody' := List.forall_mem_cons.1 hbody
    by_cases hcomment : c = '#'
    · subst hcomment
      change scan .comment .start (body ++ tail) = columns
      rw [scan_comment hbody'.2]
      exact htail.inComment
    · have hrecord : record (c :: body) = [beforeComma (c :: body)] := by
        simp [record, hcomment]
      -- The first character is read as at the start of any other column.
      have hstep : step .recordStart c = step .columnStart c := by
        rw [step, hbody'.1.1]
        exact if_neg hcomment
      have hstart : scan .recordStart .start (c :: body ++ tail) =
          scan .columnStart .start (c :: body ++ tail) := by
        rw [List.cons_append, scan, scan, hstep]
      rw [hstart, scan_column hbody htail.inLine (Or.inr rfl), hrecord]
      rfl

/-! ## The reader on all lines -/

theorem IsPlain.eq_nil_of_return {before after : List Char} (h : IsPlain (line ++ '\n' :: rest))
    (hline : '\n' ∉ line) (heq : line = before ++ '\r' :: after) : after = [] := by
  cases after with
  | nil => rfl
  | cons c after =>
    have hsuffix : '\r' :: (c :: after ++ '\n' :: rest) <:+ line ++ '\n' :: rest :=
      ⟨before, by simp [heq]⟩
    obtain rfl := Option.some.inj (h.feed_after_return _ hsuffix)
    exact absurd (by simp [heq]) hline

theorem isInner_of_mem {c : Char} (hquote : '"' ∉ line) (hfeed : '\n' ∉ line) (hreturn : '\r' ∉ line)
    (hc : c ∈ line) : IsInner c := by
  have hne : ∀ d, d ∉ line → c ≠ d := by
    rintro d hd rfl
    exact hd hc
  exact ⟨by simp [isLineEnd, hne '\n' hfeed, hne '\r' hreturn], hne '"' hquote⟩

/-- A line before a line feed holds no carriage return but the one that belongs to its end. -/
theorem IsPlain.fullLine (h : IsPlain (line ++ '\n' :: rest)) (hline : '\n' ∉ line) :
    (∀ c ∈ withoutReturn line, IsInner c) ∧
      (line = withoutReturn line ∨ line = withoutReturn line ++ ['\r']) := by
  have hquote : '"' ∉ line := fun hmem => h.no_quote (List.mem_append_left _ hmem)
  rw [withoutReturn]
  by_cases hlast : line.getLast? = some '\r'
  · obtain ⟨init, rfl⟩ := List.getLast?_eq_some_iff.1 hlast
    rw [if_pos hlast, List.dropLast_concat]
    have hquote' : '"' ∉ init := fun hmem => hquote (List.mem_append_left _ hmem)
    have hline' : '\n' ∉ init := fun hmem => hline (List.mem_append_left _ hmem)
    have hreturn' : '\r' ∉ init := by
      intro hmem
      obtain ⟨before, after, rfl⟩ := List.append_of_mem hmem
      have hnil := h.eq_nil_of_return hline (List.append_assoc before ('\r' :: after) ['\r'])
      simp at hnil
    exact ⟨fun c hc => isInner_of_mem hquote' hline' hreturn' hc, Or.inr rfl⟩
  · rw [if_neg hlast]
    refine ⟨fun c hc => isInner_of_mem hquote hline ?_ hc, Or.inl rfl⟩
    intro hmem
    obtain ⟨before, after, rfl⟩ := List.append_of_mem hmem
    obtain rfl := h.eq_nil_of_return hline rfl
    exact hlast (by simp)

/-- A text without line feeds holds no carriage return either. -/
theorem IsPlain.lastLine (h : IsPlain line) (hline : '\n' ∉ line) :
    withoutReturn line = line ∧ ∀ c ∈ line, IsInner c := by
  have hreturn : '\r' ∉ line := by
    intro hmem
    obtain ⟨before, after, rfl⟩ := List.append_of_mem hmem
    have hfeed := h.feed_after_return after (List.suffix_append before _)
    have hmem' : '\n' ∈ after := List.mem_of_mem_head? hfeed
    exact hline (by simp [hmem'])
  refine ⟨if_neg fun hlast => hreturn (List.mem_of_getLast? hlast), fun c hc => ?_⟩
  exact isInner_of_mem h.no_quote hline hreturn hc

theorem scan_eq (h : IsPlain cs) :
    scan .recordStart .start cs = ((cs.splitOn '\n').map withoutReturn).flatMap record := by
  induction cs using lines_induction with
  | last line hline =>
    obtain ⟨hreturn, hinner⟩ := h.lastLine hline
    have hscan := scan_line hinner endsLine_nil
    rw [List.append_nil, List.append_nil] at hscan
    rw [hscan, List.splitOn_eq_singleton hline]
    simp [hreturn]
  | cons line rest hline ih =>
    obtain ⟨hinner, hend⟩ := h.fullLine hline
    have hscan : scan .recordStart .start (line ++ '\n' :: rest) =
        record (withoutReturn line) ++ scan .recordStart .start rest := by
      rcases hend with hend | hend
      · have hfeed := scan_line hinner (endsLine_feed rest)
        rwa [← hend] at hfeed ⊢
      · have hreturn := scan_line hinner (endsLine_return rest)
        rw [← hreturn]
        conv_lhs => rw [hend]
        simp
    have hrest : IsPlain rest := (List.append_cons line '\n' rest ▸ h).of_append
    rw [hscan, ih hrest, List.splitOn_append_cons_self_of_not_mem hline]
    rfl

/-- The texts of the dates of a file are those of its lines, in order. -/
theorem dateTexts_of_isPlain {text : String} (h : IsPlain text.toList) :
    dateTexts text = (lines text).filterMap dateText? := by
  have hcolumns : firstColumns text = (lines text).flatMap record := by
    have hmark : ∀ rest, text.toList ≠ '\uFEFF' :: rest := by
      intro rest heq
      exact h.no_mark (by simp [heq])
    rw [firstColumns, lines, ← scan_eq h]
    split
    next heq => exact absurd heq (hmark _)
    · rfl
  rw [dateTexts, hcolumns]
  induction lines text with
  | nil => rfl
  | cons line lines ih =>
    rw [List.flatMap_cons, List.map_append, List.filter_append, List.map_append, ih,
      List.filterMap_cons]
    by_cases hskip : line = [] ∨ line.head? = some '#'
    · simp [record, dateText?, hskip]
    · by_cases hblank : Text.trim (beforeComma line) = []
      · simp [record, dateText?, hskip, hblank]
      · simp [record, dateText?, hskip, hblank]

/-! ## Dates -/

section Dates

variable {ss : List String} {ds : List Date} {e : ValueError}

theorem traverses_parseAll : Outcome.Traverses Date.parse parseAll where
  nil := rfl
  cons s ss := by
    rw [parseAll]
    cases Date.parse s with
    | error e => rfl
    | ok d => cases parseAll ss <;> rfl

/-- A text is the first that is no date, with this error. -/
def FirstUnreadable (ss : List String) (e : ValueError) : Prop :=
  FirstOf (fun s => ∃ d, Date.parse s = .ok d) (fun s => Date.parse s = .error e) ss

end Dates

/-- What is read from a text is read line by line: the dates of the texts on its lines, in order, or the error of
the first of these that is no date. Whatever stands before the first comma of a line is among them, unless the
line begins with `#` or there are only blanks. -/
structure ReadByLine (text : String) (outcome : Except ValueError (List Date)) : Prop where
  ok_iff : ∀ ds, outcome = .ok ds ↔
    List.Forall₂ (fun s d => Date.parse s = .ok d) ((lines text).filterMap dateText?) ds
  error_iff : ∀ e, outcome = .error e ↔ FirstUnreadable ((lines text).filterMap dateText?) e
  kept : ∀ ds, outcome = .ok ds → ∀ line ∈ lines text, line.head? ≠ some '#' →
    Text.trim (beforeComma line) ≠ [] →
      ∃ d ∈ ds, Date.parse (String.ofList (Text.trim (beforeComma line))) = .ok d

/-- What is read of one of the texts is among what is read of all. -/
theorem exists_date_of_mem {ss : List String} {ds : List Date} {s : String}
    (h : List.Forall₂ (fun s d => Date.parse s = .ok d) ss ds) (hs : s ∈ ss) :
    ∃ d ∈ ds, Date.parse s = .ok d := by
  induction h with
  | nil => simp at hs
  | @cons s' d' ss ds hd _ ih =>
    rcases List.mem_cons.1 hs with rfl | hs
    · exact ⟨d', List.mem_cons_self, hd⟩
    · obtain ⟨d, hmem, hd⟩ := ih hs
      exact ⟨d, List.mem_cons_of_mem d' hmem, hd⟩

theorem readByLine_dates {text : String} (h : IsPlain text.toList) : ReadByLine text (dates text) := by
  have hok : ∀ ds, dates text = .ok ds ↔
      List.Forall₂ (fun s d => Date.parse s = .ok d) ((lines text).filterMap dateText?) ds := by
    intro ds
    rw [dates, dateTexts_of_isPlain h, traverses_parseAll.eq_ok_iff]
  refine ⟨hok, fun e => ?_, fun ds hds line hline hcomment hfield => ?_⟩
  · rw [dates, dateTexts_of_isPlain h, traverses_parseAll.eq_error_iff, FirstUnreadable]
  · have hne : line ≠ [] := by
      rintro rfl
      exact hfield rfl
    have htext : dateText? line = some (String.ofList (Text.trim (beforeComma line))) := by
      simp [dateText?, hne, hcomment, hfield]
    exact exists_date_of_mem ((hok ds).1 hds) (List.mem_filterMap.2 ⟨line, hline, htext⟩)

/-- A holiday file without quotes and byte order marks whose carriage returns stand before line feeds is read line
by line: empty lines and lines that begin with `#` do not count, of any other line what stands before its first
comma is read as a date, unless only blanks stand there. -/
theorem holidays_by_line :
    (∀ text : String, IsPlain text.toList → ReadByLine text (dates text)) ∧
    ∀ (files : Files) (path text : String), files.read path = .ok text → IsPlain text.toList →
      files.holidays path = (dates text).mapError .value ∧
      ∀ name, files.holidayList name path =
        ((dates text).map (HolidayList.ofDates name)).mapError .value := by
  refine ⟨fun text => readByLine_dates, fun files path text hread h => ?_⟩
  have hholidays : files.holidays path = (dates text).mapError .value := by
    rw [Files.holidays, Files.text, hread]
  refine ⟨hholidays, fun name => ?_⟩
  rw [Files.holidayList, hholidays]
  cases dates text <;> rfl

/-- Further columns, blanks, empty lines and both line ends; a date that comes again is kept. A `#` after a blank
begins no comment. -/
theorem holidays_by_line_mixed : ∃ (files : Files) (text text' : String) (d e : Date),
    text = "# c, \r\n\r\n 2024-07-04 ,a,b\r\n,c\n \n2024-01-01,\n2024-07-04" ∧
    IsPlain text.toList ∧ d.text = "2024-07-04" ∧ e.text = "2024-01-01" ∧
    files.read "a" = .ok text ∧ files.holidays "a" = .ok [d, e, d] ∧
    text' = "2024-01-01\n #\n2024-13-01" ∧ IsPlain text'.toList ∧
    dates text' = .error (.invalidDate (.unreadable "#")) := by
  obtain ⟨hread, hfile⟩ := holidays_by_line
  have hplain : IsPlain
      "# c, \r\n\r\n 2024-07-04 ,a,b\r\n,c\n \n2024-01-01,\n2024-07-04".toList :=
    ⟨by decide, by decide, by simp [List.suffix_cons_iff]⟩
  have hplain' : IsPlain "2024-01-01\n #\n2024-13-01".toList :=
    ⟨by decide, by decide, by simp [List.suffix_cons_iff]⟩
  obtain ⟨d, hdtext, hd⟩ : ∃ d : Date, d.text = "2024-07-04" ∧ Date.parse "2024-07-04" = .ok d :=
    ⟨⟨2024, 7, 4, by decide, by decide, by decide⟩, by decide +kernel, by decide +kernel⟩
  obtain ⟨e, hetext, he⟩ : ∃ e : Date, e.text = "2024-01-01" ∧ Date.parse "2024-01-01" = .ok e :=
    ⟨⟨2024, 1, 1, by decide, by decide, by decide⟩, by decide +kernel, by decide +kernel⟩
  have hlines : (lines "# c, \r\n\r\n 2024-07-04 ,a,b\r\n,c\n \n2024-01-01,\n2024-07-04").filterMap
      dateText? = ["2024-07-04", "2024-01-01", "2024-07-04"] := by
    decide +kernel
  have hlines' : (lines "2024-01-01\n #\n2024-13-01").filterMap dateText? =
      ["2024-01-01", "#", "2024-13-01"] := by
    decide +kernel
  have htexts : List.Forall₂ (fun s d => Date.parse s = .ok d)
      ["2024-07-04", "2024-01-01", "2024-07-04"] [d, e, d] := .cons hd (.cons he (.cons hd .nil))
  rw [← hlines] at htexts
  have hdates := ((hread _ hplain).ok_iff _).2 htexts
  have hfirst : FirstUnreadable ["2024-01-01", "#", "2024-13-01"] (.invalidDate (.unreadable "#")) :=
    ⟨["2024-01-01"], "#", _, rfl, by simp [he], by decide +kernel⟩
  rw [← hlines'] at hfirst
  refine ⟨⟨fun _ => .ok _, fun _ => true⟩, _, _, d, e, rfl, hplain, hdtext, hetext,
    rfl, ?_, rfl, hplain', ((hread _ hplain').error_iff _).2 hfirst⟩
  rw [(hfile _ "a" _ rfl hplain).1, hdates]
  rfl

end TermStructure.HolidayText
