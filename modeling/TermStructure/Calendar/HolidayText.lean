import TermStructure.Date.Reader

/-!
# Holiday files

A holiday file lists dates, one a record, in the first of any number of columns with commas between
them. A record ends with its line: at a line feed, a carriage return or both. Empty lines do not
count, and neither do lines that begin with `#`, which end at a line feed only.

A column that begins with a quote is quoted: it goes on to the next single quote, over commas and line
ends, and a double quote in it stands for one. What follows the closing quote belongs to the column
too. A quote elsewhere is an ordinary character.
-/

namespace TermStructure.HolidayText

/-- Where the reader stands: at the start of a record, in a comment, at the start of a column, within
one, within quotes, or after a quote within quotes. -/
inductive Place where
  | recordStart
  | comment
  | columnStart
  | column
  | quoted
  | afterQuote
deriving DecidableEq

def isLineEnd (c : Char) : Bool :=
  c == '\n' || c == '\r'

/-- What a character means for the first column: it adds to it, it ends it, or it ends the record. -/
inductive Effect where
  | skip
  | add
  | endColumn
  | endRecord
deriving DecidableEq

/-- What a character means within a column or after its closing quote, and the next place. -/
def inColumn (c : Char) : Effect × Place :=
  if c = ',' then (.endColumn, .columnStart)
  else if isLineEnd c then (.endRecord, .recordStart)
  else (.add, .column)

/-- What a character means at the start of a column, and the next place. -/
def atColumnStart (c : Char) : Effect × Place :=
  if c = '"' then (.skip, .quoted) else inColumn c

/-- What a character means, and the next place. -/
def step (place : Place) (c : Char) : Effect × Place :=
  match place with
  | .recordStart =>
    if isLineEnd c then (.skip, .recordStart)
    else if c = '#' then (.skip, .comment)
    else atColumnStart c
  | .comment => (.skip, if c = '\n' then .recordStart else .comment)
  | .columnStart => atColumnStart c
  | .column => inColumn c
  | .quoted => if c = '"' then (.skip, .afterQuote) else (.add, .quoted)
  | .afterQuote => if c = '"' then (.add, .quoted) else inColumn c

/-- The first column of a record so far: its characters in reverse, and whether it goes on. -/
structure FirstColumn where
  reversed : List Char
  isOpen : Bool

namespace FirstColumn

def start : FirstColumn := ⟨[], true⟩

def add (f : FirstColumn) (c : Char) : FirstColumn :=
  if f.isOpen then ⟨c :: f.reversed, true⟩ else f

def close (f : FirstColumn) : FirstColumn :=
  { f with isOpen := false }

def chars (f : FirstColumn) : List Char :=
  f.reversed.reverse

end FirstColumn

/-- The first columns of the records. A record that is open at the end of the text ends there. -/
def scan (place : Place) (f : FirstColumn) : List Char → List (List Char)
  | [] => if place = .recordStart ∨ place = .comment then [] else [f.chars]
  | c :: rest =>
    match step place c with
    | (.skip, next) => scan next f rest
    | (.add, next) => scan next (f.add c) rest
    | (.endColumn, next) => scan next f.close rest
    | (.endRecord, next) => f.chars :: scan next .start rest

/-- The first columns of a text, without a byte order mark in front of it. -/
def firstColumns (text : String) : List (List Char) :=
  let cs := match text.toList with
    | '\uFEFF' :: rest => rest
    | cs => cs
  scan .recordStart .start cs

/-- The texts of the dates: the first columns without blanks around them, unless nothing is left. -/
def dateTexts (text : String) : List String :=
  (((firstColumns text).map Text.trim).filter (· ≠ [])).map String.ofList

/-- The dates of some texts in order, or the error of the first that is no date. -/
def parseAll : List String → Except ValueError (List Date)
  | [] => .ok []
  | s :: rest =>
    match Date.parse s with
    | .error e => .error e
    | .ok d =>
      match parseAll rest with
      | .error e => .error e
      | .ok ds => .ok (d :: ds)

/-- The dates of a holiday file in order, with repetitions. -/
def dates (text : String) : Except ValueError (List Date) :=
  parseAll (dateTexts text)

end TermStructure.HolidayText
