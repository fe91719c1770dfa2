import TermStructure.Json.Lexer

/-!
# Reading JSON documents

The reader is a stack machine over tokens. The stack holds the containers that are open, each with
what it has so far; the mode says what may come next. Where a token does not fit, the reader stops
and closes all open containers as broken, so the tree holds everything before that token.
-/

namespace TermStructure.Json

/-- A container that is open, with its items or members so far in reverse. In an object the value of
a key is awaited. -/
inductive Frame where
  | array (done : List Tree)
  | object (done : List (Key × Tree)) (key : Key)

/-- What the reader expects: a value, or the end of an array that has none yet; a comma or the end of
an array; a key, or the end of an object that has none yet; a colon; a comma or the end of an
object. -/
inductive Mode where
  | value (orEnd : Bool)
  | afterItem (done : List Tree)
  | key (done : List (Key × Tree)) (orEnd : Bool)
  | colon (done : List (Key × Tree)) (key : Key)
  | afterMember (done : List (Key × Tree))

/-- A document: its value, and whether nothing follows it. -/
structure Document where
  root : Tree
  complete : Bool

/-- Puts a value that is not finished into the open containers, and closes all of them as broken. -/
def abandon (t : Option Tree) : List Frame → Document
  | [] => ⟨t.getD .broken, false⟩
  | .array done :: frames => abandon (some (.array ((t.toList ++ done).reverse) .broken)) frames
  | .object done key :: frames =>
    abandon (some (.object (((key, t.getD .broken) :: done).reverse) .broken)) frames

/-- Stops where a token does not fit. -/
def stop (mode : Mode) (frames : List Frame) : Document :=
  match mode with
  | .value _ => abandon none frames
  | .afterItem done => abandon (some (.array done.reverse .broken)) frames
  | .key done _ => abandon (some (.object done.reverse .broken)) frames
  | .colon done key => abandon (some (.object ((key, .broken) :: done).reverse .broken)) frames
  | .afterMember done => abandon (some (.object done.reverse .broken)) frames

/-- Where the reader goes on after a value: nowhere if no container is open. -/
def place (t : Tree) : List Frame → Option (Mode × List Frame)
  | [] => none
  | .array done :: frames => some (.afterItem (t :: done), frames)
  | .object done key :: frames => some (.afterMember ((key, t) :: done), frames)

/-- What a token leads to: another mode and stack, a finished value, or a stop. -/
inductive Step where
  | goOn (mode : Mode) (frames : List Frame)
  | finish (t : Tree) (frames : List Frame)
  | halt

/-- What a token leads to in a mode. -/
def step (mode : Mode) (frames : List Frame) (token : Token) : Step :=
  match mode, token with
  | .value _, .leaf t => .finish t frames
  | .value _, .string s => .finish (.string s) frames
  | .value _, .openArray => .goOn (.value true) (.array [] :: frames)
  | .value _, .openObject => .goOn (.key [] true) frames
  | .value true, .closeArray =>
    match frames with
    | .array [] :: frames => .finish (.array [] .closed) frames
    | _ => .halt
  | .afterItem done, .comma => .goOn (.value false) (.array done :: frames)
  | .afterItem done, .closeArray => .finish (.array done.reverse .closed) frames
  | .key done _, .string s => .goOn (.colon done s) frames
  | .key done true, .closeObject => .finish (.object done.reverse .closed) frames
  | .colon done key, .colon => .goOn (.value false) (.object done key :: frames)
  | .afterMember done, .comma => .goOn (.key done false) frames
  | .afterMember done, .closeObject => .finish (.object done.reverse .closed) frames
  | _, _ => .halt

/-- Runs the machine over tokens. -/
def run (mode : Mode) (frames : List Frame) : List Token → Document
  | [] => stop mode frames
  | token :: rest =>
    match step mode frames token with
    | .goOn mode frames => run mode frames rest
    | .halt => stop mode frames
    | .finish t frames =>
      match place t frames with
      | some (mode, frames) => run mode frames rest
      | none => ⟨t, rest.isEmpty⟩

/-- Reads a document. Containers may nest without limit. A limit would change nothing that the program makes of a
document: its records have few levels, and what lies deeper is skipped or refused at its first token. -/
def read (s : String) : Document :=
  run (.value false) [] (lex s.toList)

end TermStructure.Json
