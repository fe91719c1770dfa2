import TermStructure.Command.Arguments
import TermStructure.Command.Curve
import TermStructure.Command.LogFilter
import TermStructure.Command.Table

/-!
# Running the program

The arguments are read first, then the settings, then the command runs. The settings come from the
file that the arguments or the environment name, which must be there; if none is named, from the file
at the default path if there is one. A format among the arguments replaces that of the settings. Before
the command runs there are notices about its log filter, unless it is quiet; with a broken log filter it
does not run.
-/

namespace TermStructure

def version : String := "0.1.0"

/-- How the arguments are written. -/
def usage : String :=
  "Usage: termgrid [OPTIONS] table validate FILE\n" ++
  "       termgrid [OPTIONS] table lookup FILE TENOR...\n" ++
  "       termgrid [OPTIONS] curve validate FILE\n" ++
  "       termgrid [OPTIONS] curve nodes FILE [--holidays FILE]\n" ++
  "Options: -f, --format table|json|csv    -c, --config FILE    -q, --quiet    -V, --version\n"

/-- Why the program gives no results. A command may have given notices before its error. -/
inductive Failure where
  | usage
  | logFilter
  | command (notices : String) (error : CommandError)
deriving DecidableEq

namespace Failure

def code : Failure → Nat
  | usage => 2
  | logFilter => 101
  | command _ _ => 1

def report : Failure → String
  | usage => TermStructure.usage
  | logFilter => "Error: the log filter is cut inside a character\n"
  | command notices e => notices ++ e.report

end Failure

namespace Command

/-- Loads the settings of a file. -/
def settingsOf (files : Files) (path : String) : Except CommandError Settings :=
  match files.read path with
  | .error fault => .error (.settings path (.unreadable fault))
  | .ok text =>
    match Settings.parse text with
    | .error fault => .error (.settings path (.content fault))
    | .ok s => .ok s

/-- The settings for a run. -/
def settings (files : Files) (config : Option String) : Except CommandError Settings :=
  match config with
  | some path => settingsOf files path
  | none =>
    if files.present Settings.defaultPath then settingsOf files Settings.defaultPath else .ok {}

/-- How the results of a run are shown. -/
def presentation (i : Invocation) (s : Settings) : Presentation where
  format := i.format.getD s.format
  quiet := i.quiet
  precision := s.precision

def perform (files : Files) (s : Settings) (p : Presentation) :
    Request → Except CommandError Output
  | .validateTable file => validateTable files p file
  | .lookUp file tenors => lookUp files p file tenors
  | .validateCurve file => validateCurve files p file
  | .curveNodes file holidays => curveNodes files s p file holidays

/-- The notices before a request is run, unless its log filter is broken. -/
def notices? (i : Invocation) (s : Settings) : Option String :=
  if i.quiet then some "" else LogFilter.notices? s.logFilter

/-- Loads the settings and runs the request. -/
def invoke (files : Files) (i : Invocation) : Except Failure Output :=
  match settings files i.config with
  | .error e => .error (.command "" e)
  | .ok s =>
    match notices? i s, perform files s (presentation i s) i.request with
    | none, _ => .error .logFilter
    | some notices, .error e => .error (.command notices e)
    | some notices, .ok output => .ok (⟨"", notices⟩ ++ output)

end Command

/-- The file in which an invocation looks for its settings. -/
def Invocation.settingsPath (i : Invocation) : String :=
  i.config.getD Settings.defaultPath

/-- The files that a request may read under some settings. -/
def Request.paths (s : Settings) : Request → List String
  | .validateTable file => [file]
  | .lookUp file _ => [file]
  | .validateCurve file => [file]
  | .curveNodes file holidays => file :: s.calendars.map (·.2) ++ holidays.toList

/-- Runs the program on files, with the settings file that the environment names. -/
def run (files : Files) (environment : Option String) (arguments : List String) :
    Except Failure Output :=
  match Invocation.ofArguments environment arguments with
  | .error .usage => .error .usage
  | .error (.version command) => .ok ⟨command ++ " " ++ version ++ "\n", ""⟩
  | .ok i => Command.invoke files i

end TermStructure
