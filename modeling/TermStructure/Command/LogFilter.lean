import TermStructure.Number.FloatText
import TermStructure.Pattern.Reader
import TermStructure.Text.Bytes

/-!
# Log filters

A log filter says which log messages are wanted. It is a list of directives between commas; a directive
is a level or a target, or a target, a span between brackets or both, and then may have a level after
an equals sign. The fields of a span stand between braces, and the value of a field is a number or a
pattern. A directive that is not understood is passed over with a notice.

Where the parts of a directive stand is found without the blanks around it, but they are cut from the
directive as it is written. Blanks in front thus move the cuts to the left, and a cut inside a character
breaks the filter.
-/

namespace TermStructure

/-- Why a directive is not understood. -/
inductive DirectiveFault where
  | form
  | level
  | field (fault : PatternFault)
deriving DecidableEq, Repr

def DirectiveFault.message : DirectiveFault → String
  | form => "invalid filter directive"
  | level =>
    "error parsing level filter: expected one of \"off\", \"error\", \"warn\", \"info\", " ++
      "\"debug\", \"trace\", or a number 0-5"
  | field fault => "invalid field filter: " ++ fault.message

namespace LogFilter

/-! ## Where the parts of a directive stand -/

/-- What is found in a directive, from left to right: parts between byte offsets, of which fields and
the level are looked into, and what does not belong there. The level goes on to the end. -/
inductive Finding where
  | part (first last : Nat)
  | field (first last : Nat)
  | level (first : Nat)
  | stray
deriving DecidableEq, Repr

/-- What is found after a span, which ends at an offset. -/
def findAfterSpan (offset : Nat) : List Char → List Finding
  | [] => []
  | '=' :: _ => [.level (offset + 1)]
  | _ => [.stray]

/-- What is found after the brace that opens the fields of a span. -/
def findFields (offset : Nat) (cs : List Char) : List Finding :=
  match cs.span (· != '\x7d') with
  | (_, []) => [.stray]
  | ([], _) => [.part offset offset, .stray]
  | (text, _ :: rest) =>
    let last := offset + Text.byteCount text
    .field offset last :: match rest with
      | ']' :: rest => findAfterSpan (last + 2) rest
      | _ => [.stray]

/-- What is found after the bracket that opens a span. -/
def findSpan (offset : Nat) (cs : List Char) : List Finding :=
  let (name, rest) := cs.span fun c => c != ']' && c != '\x7b'
  let last := offset + Text.byteCount name
  match rest with
  | ']' :: rest => .part offset last :: findAfterSpan (last + 1) rest
  | '\x7b' :: rest => .part offset last :: findFields (last + 1) rest
  | _ => [.stray]

/-- Whether a character can begin a level or a target. -/
def opensTarget (c : Char) : Bool :=
  c == '-' || c == ':' || c == '_' || Text.isAlphanumeric c

/-- What is found in a directive without blanks around it. A directive that is a level alone counts as
a target. -/
def find : List Char → List Finding
  | [] => [.stray]
  | '[' :: rest => findSpan 1 rest
  | c :: rest =>
    if opensTarget c then
      let (target, rest) := (c :: rest).span fun c => c != '=' && c != '['
      let last := Text.byteCount target
      match rest with
      | '=' :: _ => [.part 0 last, .level (last + 1)]
      | '[' :: rest => .part 0 last :: findSpan (last + 1) rest
      | _ => []
    else [.stray]

/-! ## Faults -/

def levelNames : List String :=
  ["off", "error", "warn", "info", "debug", "trace"]

/-- Whether a text is a level: nothing, a name in any case, or a number. -/
def isLevel (cs : List Char) : Bool :=
  cs.isEmpty || levelNames.contains (String.ofList (cs.map Char.toLower)) ||
    (Numeral.ofUnsigned? 5 cs).isSome

/-- Why the value of a field is not understood, if so. It ends before a second equals sign. -/
def fieldFault? (field : List Char) : Option PatternFault :=
  match field.splitOn '=' with
  | _ :: value :: _ =>
    if (FloatText.read? (String.ofList value)).isSome then none else Pattern.fault? value
  | _ => none

/-- Why a finding is not understood, if so; nothing if it cannot be cut from the directive. -/
def Finding.fault? (directive : List Char) : Finding → Option (Option DirectiveFault)
  | part first last => (Text.slice? first last directive).map fun _ => none
  | field first last =>
    (Text.slice? first last directive).map fun cs => (fieldFault? cs).map .field
  | level first =>
    (Text.cutAt? first directive).map fun (_, cs) => if isLevel cs then none else some .level
  | stray => some (some .form)

/-- Why the first of some findings that is not understood is not, if there is one; nothing if one
before it cannot be cut from the directive. -/
def firstFault? (directive : List Char) : List Finding → Option (Option DirectiveFault)
  | [] => some none
  | f :: fs =>
    match f.fault? directive with
    | some none => firstFault? directive fs
    | result => result

/-- Why a directive is not understood, if so; nothing if it breaks the filter. -/
def fault? (directive : List Char) : Option (Option DirectiveFault) :=
  firstFault? directive (find (Text.trim directive))

/-! ## Notices -/

/-- The notice about a directive, if it is not understood. -/
def notice (directive : List Char) : Option DirectiveFault → String
  | none => ""
  | some fault => "ignoring `" ++ String.ofList directive ++ "`: " ++ fault.message ++ "\n"

/-- The notices about a filter, unless it is broken. Empty directives do not count. -/
def notices? (filter : String) : Option String :=
  let directives := (filter.toList.splitOn ',').filter (· ≠ [])
  (directives.mapM fun d => (fault? d).map (notice d)).map String.join

end LogFilter

end TermStructure
