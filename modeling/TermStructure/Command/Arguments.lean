import TermStructure.Report.Output
import TermStructure.Tenor.Reader

/-!
# Arguments of the program

The arguments name a group of commands, then a command of it, then what the command works on:
`table validate FILE`, `table lookup FILE TENOR...`, `curve validate FILE` and
`curve nodes FILE [--holidays FILE]`. Three options may stand anywhere: `--format`, `--config` and
`--quiet`, with the short forms `-f`, `-c` and `-q`, which can be joined. An option is given once for
each of the program, the group and the command; of several values the innermost counts. The version of
a command is told as soon as `--version` or `-V` is met. After `--` nothing is an option or a command.

A value that is joined to its option is looked at when it is met. A value in an argument of its own is
kept until the next option of its level, or until all arguments have been read: so the version of a
command inside the level is told even if the value is none.
-/

namespace TermStructure

/-! ## Requests -/

/-- What a command works on. -/
inductive Request where
  | validateTable (file : String)
  | lookUp (file : String) (tenors : List Tenor)
  | validateCurve (file : String)
  | curveNodes (file : String) (holidays : Option String)
deriving DecidableEq, Repr

/-- A request with the options of the program. -/
structure Invocation where
  format : Option OutputFormat
  config : Option String
  quiet : Bool
  request : Request
deriving DecidableEq, Repr

/-- Why arguments give no request: they are not understood, or the version of a command is wanted. -/
inductive Refusal where
  | usage
  | version (command : String)
deriving DecidableEq, Repr

/-! ## Levels -/

/-- The program, its groups of commands, and the commands. -/
inductive Level where
  | program
  | tableGroup
  | curveGroup
  | validateTable
  | lookUp
  | validateCurve
  | curveNodes
deriving DecidableEq, Repr

namespace Level

def name : Level → String
  | program => "termgrid"
  | tableGroup => "termgrid-table"
  | curveGroup => "termgrid-curve"
  | validateTable => "termgrid-table-validate"
  | lookUp => "termgrid-table-lookup"
  | validateCurve => "termgrid-curve-validate"
  | curveNodes => "termgrid-curve-nodes"

/-- The level that a word leads to. -/
def enter? : Level → String → Option Level
  | program, "table" => some tableGroup
  | program, "curve" => some curveGroup
  | tableGroup, "validate" => some validateTable
  | tableGroup, "lookup" => some lookUp
  | curveGroup, "validate" => some validateCurve
  | curveGroup, "nodes" => some curveNodes
  | _, _ => none

end Level

/-! ## Arguments -/

/-- The kinds of arguments. -/
inductive Argument where
  | dashes
  | long (name : List Char) (value : Option String)
  | short (letters : List Char)
  | word
deriving DecidableEq, Repr

namespace Argument

/-- The kind of an argument. A single hyphen is a word. -/
def ofChars : List Char → Argument
  | ['-', '-'] => .dashes
  | '-' :: '-' :: rest =>
    let value := match rest.dropWhile (· != '=') with
      | [] => none
      | _ :: value => some (String.ofList value)
    .long (rest.takeWhile (· != '=')) value
  | '-' :: c :: rest => .short (c :: rest)
  | _ => .word

end Argument

/-- The options that take a value. -/
inductive ValueOption where
  | format
  | config
  | holidays
deriving DecidableEq, Repr

/-- The options that have been given at a level, and the one whose value has yet to be looked at. -/
structure LevelOptions where
  format : Option OutputFormat := none
  config : Option String := none
  holidays : Option String := none
  quiet : Bool := false
  pending : Option (ValueOption × String) := none
deriving DecidableEq, Repr

namespace LevelOptions

/-- Gives an option its value, which must be the first one at its level. -/
def give (l : LevelOptions) (o : ValueOption) (value : String) : Except Refusal LevelOptions :=
  match o with
  | .format =>
    match l.format, OutputFormat.ofName? value with
    | none, some f => .ok { l with format := some f }
    | _, _ => .error .usage
  | .config =>
    if l.config.isSome ∨ value = "" then .error .usage else .ok { l with config := some value }
  | .holidays =>
    if l.holidays.isSome ∨ value = "" then .error .usage else .ok { l with holidays := some value }

/-- Gives the option its value that has yet to be looked at. -/
def settle (l : LevelOptions) : Except Refusal LevelOptions :=
  match l.pending with
  | some (o, value) => give { l with pending := none } o value
  | none => .ok l

/-- Sets the quiet option, once at a level. -/
def setQuiet (l : LevelOptions) : Except Refusal LevelOptions :=
  if l.quiet then .error .usage else .ok { l with quiet := true }

/-- Settles all levels in order. -/
def settleAll : List LevelOptions → Except Refusal (List LevelOptions)
  | [] => .ok []
  | l :: rest =>
    match l.settle, settleAll rest with
    | .ok l, .ok rest => .ok (l :: rest)
    | _, _ => .error .usage

end LevelOptions

/-- The arguments read so far: the level with its options, the options of the levels around it from
the inside out, the option whose value is awaited, whether `--` has been met, and what the command
works on. -/
structure ArgumentState where
  level : Level := .program
  options : LevelOptions := {}
  outer : List LevelOptions := []
  awaited : Option ValueOption := none
  literal : Bool := false
  file : Option String := none
  tenors : List Tenor := []
deriving DecidableEq, Repr

namespace ArgumentState

/-- Changes the options of the level after the value that has yet to be looked at. -/
def change (s : ArgumentState) (edit : LevelOptions → Except Refusal LevelOptions) :
    Except Refusal ArgumentState :=
  match s.options.settle with
  | .error e => .error e
  | .ok l => (edit l).map fun l => { s with options := l }

def setQuiet (s : ArgumentState) : Except Refusal ArgumentState :=
  s.change LevelOptions.setQuiet

/-- Tells the version of the level. -/
def tellVersion (s : ArgumentState) : Except Refusal ArgumentState :=
  s.change fun _ => .error (.version s.level.name)

/-- An option that takes a value, with the value if it is joined. -/
def option (s : ArgumentState) (o : ValueOption) : Option String → Except Refusal ArgumentState
  | some value => s.change fun l => l.give o value
  | none => { s with awaited := some o }.change .ok

/-- The value of an option in an argument of its own. -/
def apart (s : ArgumentState) (o : ValueOption) (value : String) : ArgumentState :=
  { s with awaited := none, options := { s.options with pending := some (o, value) } }

/-- An option by its long name. -/
def long (s : ArgumentState) (name : List Char) (value : Option String) :
    Except Refusal ArgumentState :=
  match String.ofList name, value with
  | "format", _ => s.option .format value
  | "config", _ => s.option .config value
  | "holidays", _ => if s.level = .curveNodes then s.option .holidays value else .error .usage
  | "quiet", none => s.setQuiet
  | "version", none => s.tellVersion
  | _, _ => .error .usage

/-- The value joined to a short option: an equals sign in front does not count. -/
def joined : List Char → Option String
  | [] => none
  | '=' :: value => some (String.ofList value)
  | value => some (String.ofList value)

/-- Options by their letters. One that takes a value takes all further letters. -/
def short (s : ArgumentState) : List Char → Except Refusal ArgumentState
  | [] => .ok s
  | 'q' :: rest =>
    match s.setQuiet with
    | .ok s => s.short rest
    | .error e => .error e
  | 'f' :: rest => s.option .format (joined rest)
  | 'c' :: rest => s.option .config (joined rest)
  | 'V' :: _ => s.tellVersion
  | _ => .error .usage

/-- A word that the command works on: its file, or a tenor after it. -/
def operand (s : ArgumentState) (word : String) : Except Refusal ArgumentState :=
  match s.level, s.file with
  | .program, _ => .error .usage
  | .tableGroup, _ => .error .usage
  | .curveGroup, _ => .error .usage
  | _, none => if word = "" then .error .usage else .ok { s with file := some word }
  | .lookUp, some _ =>
    match Tenor.parse word with
    | .ok t => .ok { s with tenors := s.tenors ++ [t] }
    | .error _ => .error .usage
  | _, some _ => .error .usage

/-- A word: it leads to the next level, or the command works on it. -/
def word (s : ArgumentState) (word : String) : Except Refusal ArgumentState :=
  match s.level.enter? word with
  | some level => .ok { s with level := level, options := {}, outer := s.options :: s.outer }
  | none => s.operand word

def next (s : ArgumentState) (argument : String) : Except Refusal ArgumentState :=
  if s.literal then (if s.awaited.isSome then .error .usage else s.operand argument)
  else
    match Argument.ofChars argument.toList, s.awaited with
    | .word, some o => .ok (s.apart o argument)
    | _, some _ => .error .usage
    | .word, none => s.word argument
    | .dashes, none => .ok { s with literal := true }
    | .long name value, none => s.long name value
    | .short letters, none => s.short letters

def nexts (s : ArgumentState) : List String → Except Refusal ArgumentState
  | [] => .ok s
  | a :: rest =>
    match s.next a with
    | .ok s => s.nexts rest
    | .error e => .error e

/-- What is requested of the command, if everything it needs has been given. -/
def request? (s : ArgumentState) (holidays : Option String) : Option Request :=
  match s.level, s.file with
  | .validateTable, some file => some (.validateTable file)
  | .lookUp, some file => if s.tenors.isEmpty then none else some (.lookUp file s.tenors)
  | .validateCurve, some file => some (.validateCurve file)
  | .curveNodes, some file => some (.curveNodes file holidays)
  | _, _ => none

/-- The options of all levels from the inside out. -/
def allOptions (s : ArgumentState) : Except Refusal (List LevelOptions) :=
  LevelOptions.settleAll (s.options :: s.outer)

end ArgumentState

namespace Invocation

/-- Reads arguments. The environment may name a settings file for all levels that name none; its name
must not be empty then. -/
def ofArguments (environment : Option String) (arguments : List String) :
    Except Refusal Invocation :=
  match ArgumentState.nexts {} arguments with
  | .error e => .error e
  | .ok s =>
    match s.allOptions with
    | .error e => .error e
    | .ok levels =>
      match s.awaited, s.request? (levels.findSome? (·.holidays)) with
      | none, some request =>
        if environment = some "" ∧ levels.any (·.config.isNone) then .error .usage
        else
          .ok {
            format := levels.findSome? (·.format)
            config := (levels.findSome? (·.config)).or environment
            quiet := levels.any (·.quiet)
            request := request }
      | _, _ => .error .usage

end Invocation

end TermStructure
