import TermStructure.Command.Run

/-!
# The program

Reads the files that an invocation asks for, runs it on them, and writes its output. What a run reads
is known from its arguments and settings, so all files are read before the run.
-/

namespace TermStructure

def readText (path : String) : IO (Except ReadFault String) := do
  try
    match String.fromUTF8? (← IO.FS.readBinFile path) with
    | some text => return .ok text
    | none => return .error .notText
  catch
    | .noFileOrDirectory .. => return .error .missing
    | .inappropriateType .. => return .error .isFolder
    | e => return .error (.other (toString e))

/-- The files at some paths as they are now. -/
def snapshot (paths : List String) : IO Files := do
  let mut known : List (String × Except ReadFault String) := []
  for path in paths do
    known := (path, ← readText path) :: known
  let found := known
  let read (path : String) : Except ReadFault String :=
    ((found.find? (·.1 == path)).map (·.2)).getD (.error .missing)
  let present (path : String) : Bool :=
    match read path with
    | .error .missing => false
    | _ => true
  return ⟨read, present⟩

/-- The files that an invocation may read. -/
def filesFor (i : Invocation) : IO Files := do
  let files ← snapshot [i.settingsPath]
  match Command.settings files i.config with
  | .ok s => snapshot (i.settingsPath :: i.request.paths s)
  | .error _ => return files

end TermStructure

open TermStructure in
def main (arguments : List String) : IO UInt32 := do
  let environment ← IO.getEnv "TERMGRID_CONFIG"
  let files ← match Invocation.ofArguments environment arguments with
    | .ok i => filesFor i
    | .error _ => snapshot []
  match run files environment arguments with
  | .ok output =>
    IO.print output.results
    IO.eprint output.notices
    return 0
  | .error failure =>
    IO.eprint failure.report
    return failure.code.toUInt32
