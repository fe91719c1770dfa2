import TermStructure.Date.Reader
import TermStructure.Document.Format
import TermStructure.Document.Tree
import TermStructure.Json.Place
import TermStructure.Table.Error

/-!
# Decoding document trees

A reader takes a value from a tree, in the order of the text: the first problem is the answer, be it
a malformed text or content of the wrong kind. `Fields` describes a record: it may be written as an
object, whose members stand in any order, or as an array of its fields in order.

The two formats differ where a container has more than is wanted: further items of a record's array
are malformed in JSON and ignored in TOML, and a name among alternatives may be written as an object
with that name as its only key.
-/

namespace TermStructure

/-- Why the content of a well-formed text is not what is wanted. -/
inductive DataFault where
  | wrongType (found : Found) (expected : String)
  | wrongInteger (n : Int) (expected : String)
  | wrongLength (length : Nat) (record : String) (fields : Nat)
  | missingField (name : String)
  | duplicateField (name : String)
  | unknownField (name : String)
  | unknownVariant (name : String) (variants : List String)
  | neitherTextNorTable
  | noMember
  | severalMembers
  | filledArray
  | filledTable
  | noTable (kind : String)
  | dateText (fault : DateTextFault)
  | value (error : ValueError)
  | structural (error : StructureError)
deriving DecidableEq

namespace DataFault

/-- The layout of floating point numbers in messages. -/
def floatLayout : DocumentFormat → FloatLayout
  | .json => .json
  | .toml => .pointed

def nameList (names : List String) : String :=
  ", ".intercalate (names.map fun n => "`" ++ n ++ "`")

def description (format : DocumentFormat) : DataFault → String
  | wrongType found expected =>
    "invalid type: " ++ found.describe (floatLayout format) ++ ", expected " ++ expected
  | wrongInteger n expected => "invalid value: integer `" ++ toString n ++ "`, expected " ++ expected
  | wrongLength length record fields =>
    "invalid length " ++ toString length ++ ", expected struct " ++ record ++ " with " ++
      toString fields ++ (if fields = 1 then " element" else " elements")
  | missingField name => "missing field `" ++ name ++ "`"
  | duplicateField name => "duplicate field `" ++ name ++ "`"
  | unknownField name => "unknown field `" ++ name ++ "`"
  | unknownVariant name variants =>
    "unknown variant `" ++ name ++ "`, expected one of " ++ nameList variants
  | neitherTextNorTable => "wanted string or table"
  | noMember => "wanted exactly 1 element, found 0 elements"
  | severalMembers => "wanted exactly 1 element, more than 1 element"
  | filledArray => "expected empty array"
  | filledTable => "expected empty table"
  | noTable kind => "expected table, found " ++ kind
  | dateText fault => fault.message
  | value error => error.message
  | structural error => error.message

/-- The wording of a fault. In JSON the place of a fault is no part of it, even where content repeated
in the description reads like one. -/
def message (format : DocumentFormat) (fault : DataFault) : String :=
  match format with
  | .json => String.ofList (Json.withoutPlace (fault.description .json).toList)
  | .toml => fault.description .toml

end DataFault

/-- Why nothing can be read from a tree. -/
inductive DecodeFault where
  | malformed
  | data (fault : DataFault)
deriving DecidableEq

/-- The outcome of reading. -/
abbrev Decoded (α : Type u) := Except DecodeFault α

/-- How a value is read from a tree. -/
abbrev Reader (α : Type u) := DocumentFormat → Tree → Decoded α

namespace Decode

variable {α : Type u} {σ : Type v}

/-! ## Leaves -/

/-- The outcome where another kind of value was wanted. -/
def mismatch (t : Tree) (expected : String) : Decoded α :=
  match t.found? with
  | some found => .error (.data (.wrongType found expected))
  | none => .error .malformed

/-- The outcome of a check whose error is a fault of content. -/
def check {ε : Type w} (fault : ε → DataFault) : Except ε α → Decoded α
  | .ok a => .ok a
  | .error e => .error (.data (fault e))

def text (expected : String) (t : Tree) : Decoded String :=
  match t with
  | .string (some s) => .ok s
  | t => mismatch t expected

/-- A text, as a value of a table. -/
def string : Reader String :=
  fun _ t => text "a string" t

/-- A double; integers count as doubles. -/
def float : Reader Float :=
  fun _ t => match t with
    | .number (.int n) => .ok (Float.ofInt n)
    | .number (.float x) => .ok x
    | t => mismatch t "f64"

/-- An integer between two bounds, named by its kind. -/
def integer (kind : String) (low high : Int) : Reader Int :=
  fun _ t => match t with
    | .number (.int n) =>
      if low ≤ n ∧ n ≤ high then .ok n else .error (.data (.wrongInteger n kind))
    | t => mismatch t kind

def int64 : Reader Int :=
  integer "i64" (-2 ^ 63) (2 ^ 63 - 1)

def bool : Reader Bool :=
  fun _ t => match t with
    | .bool b => .ok b
    | t => mismatch t "a boolean"

def nullable (r : Reader α) : Reader (Option α) :=
  fun format t => match t with
    | .null => .ok none
    | t => (r format t).map some

/-! ## Sequences -/

/-- All items in order. -/
def items (r : Reader α) (format : DocumentFormat) : List Tree → Decoded (List α)
  | [] => .ok []
  | t :: rest =>
    match r format t with
    | .error e => .error e
    | .ok a =>
      match items r format rest with
      | .error e => .error e
      | .ok as => .ok (a :: as)

def sequence (r : Reader α) : Reader (List α) :=
  fun format t => match t.items? with
    | some (ts, ending) =>
      match items r format ts with
      | .error e => .error e
      | .ok as => if ending = .closed then .ok as else .error .malformed
    | none => mismatch t "a sequence"

/-! ## Alternatives -/

/-- Names for the values of a finite type. -/
structure Variants (α : Type u) where
  names : List String
  ofName? : String → Option α

/-- The value of a name. -/
def Variants.named (v : Variants α) (name : String) : Decoded α :=
  match v.ofName? name with
  | some a => .ok a
  | none => .error (.data (.unknownVariant name v.names))

/-- The name of a JSON object's only key, with null under it. -/
def jsonVariant (v : Variants α) (members : List (Key × Tree)) (ending : Ending) : Decoded α :=
  match members with
  | [] => .error .malformed
  | (none, _) :: _ => .error .malformed
  | (some name, t) :: rest =>
    match v.named name with
    | .error e => .error e
    | .ok a =>
      match t with
      | .null => if rest.isEmpty ∧ ending = .closed then .ok a else .error .malformed
      | t => mismatch t "unit"

/-- Whether a value under a TOML table's only key holds nothing. -/
def tomlUnit (t : Tree) : Decoded Unit :=
  match t with
  | .array [] _ => .ok ()
  | .object [] _ => .ok ()
  | .tables _ => .error (.data .filledArray)
  | .array _ _ => .error (.data .filledTable)
  | .object _ _ => .error (.data .filledTable)
  | .string _ => .error (.data (.noTable "string"))
  | .number (.int _) => .error (.data (.noTable "integer"))
  | .number _ => .error (.data (.noTable "float"))
  | .bool _ => .error (.data (.noTable "boolean"))
  | _ => .error (.data (.noTable "datetime"))

/-- The name of a TOML table's only key, with nothing under it. -/
def tomlVariant (v : Variants α) (members : List (Key × Tree)) : Decoded α :=
  match members with
  | [] => .error (.data .noMember)
  | [(some name, t)] =>
    match v.named name with
    | .error e => .error e
    | .ok a => (tomlUnit t).map fun _ => a
  | [(none, _)] => .error .malformed
  | _ => .error (.data .severalMembers)

def variant (v : Variants α) : Reader α :=
  fun format t => match format, t with
    | _, .string (some name) => v.named name
    | .json, .object members ending => jsonVariant v members ending
    | .json, _ => .error .malformed
    | .toml, .object members _ => tomlVariant v members
    | .toml, _ => .error (.data .neitherTextNorTable)

/-! ## Records -/

/-- A field of a record that is collected in a state. An optional field may be missing at the end of
an array. -/
structure Field (σ : Type v) where
  name : String
  optional : Bool
  read : DocumentFormat → Tree → σ → Decoded σ

/-- The field with a name, read by `r` and stored by `store`. -/
def field (name : String) (optional : Bool) (r : Reader α) (store : α → σ → σ) : Field σ where
  name := name
  optional := optional
  read format t s := (r format t).map fun a => store a s

/-- A record: its name, its fields in order, and whether it refuses other members. -/
structure Fields (σ : Type v) where
  record : String
  fields : List (Field σ)
  strict : Bool

/-- Reads a member of an object: the names seen before cannot come again, and the value of an unknown
member need only be well formed. -/
def Fields.member (f : Fields σ) (format : DocumentFormat) (seen : List String) (s : σ)
    (name : String) (t : Tree) : Decoded σ :=
  match f.fields.find? (·.name == name) with
  | some field =>
    if seen.contains name then .error (.data (.duplicateField name)) else field.read format t s
  | none =>
    if f.strict then .error (.data (.unknownField name))
    else if t.wellFormed then .ok s
    else .error .malformed

/-- Reads the members of an object in order. -/
def Fields.members (f : Fields σ) (format : DocumentFormat) (ending : Ending) :
    List String → σ → List (Key × Tree) → Decoded σ
  | _, s, [] => if ending = .closed then .ok s else .error .malformed
  | _, _, (none, _) :: _ => .error .malformed
  | seen, s, (some name, t) :: rest =>
    match f.member format seen s name t with
    | .error e => .error e
    | .ok s => f.members format ending (name :: seen) s rest

/-- Reads the items of an array as the fields in order. -/
def Fields.items (f : Fields σ) (format : DocumentFormat) (ending : Ending) :
    Nat → σ → List (Field σ) → List Tree → Decoded σ
  | _, s, [], ts =>
    if format = .toml ∨ (ts.isEmpty ∧ ending = .closed) then .ok s else .error .malformed
  | i, s, field :: fields, [] =>
    if ending ≠ .closed then .error .malformed
    else if field.optional then f.items format ending (i + 1) s fields []
    else .error (.data (.wrongLength i f.record f.fields.length))
  | i, s, field :: fields, t :: ts =>
    match field.read format t s with
    | .error e => .error e
    | .ok s => f.items format ending (i + 1) s fields ts

/-- Reads a record into a state. -/
def Fields.read (f : Fields σ) (init : σ) : Reader σ :=
  fun format t =>
    match t.items?, t.members? with
    | some (ts, ending), _ => f.items format ending 0 init f.fields ts
    | none, some (members, ending) => f.members format ending [] init members
    | none, none => mismatch t ("struct " ++ f.record)

/-- A field of a record that has been read. -/
def required (name : String) (value : Option α) : Decoded α :=
  match value with
  | some a => .ok a
  | none => .error (.data (.missingField name))

end Decode

end TermStructure
