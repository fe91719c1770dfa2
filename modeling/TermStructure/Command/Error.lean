import TermStructure.File.Error

/-!
# Errors of commands

Why a command gives no result. An error about the content of a document or of the settings names the
file in its subject; details follow. What the system says about an unreadable file is repeated as the
cause.
-/

namespace TermStructure

/-- Why settings cannot be loaded. -/
inductive SettingsFault where
  | unreadable (fault : ReadFault)
  | content (fault : DecodeFault)
deriving DecidableEq

/-- An error of a command. -/
inductive CommandError where
  | settings (path : String) (fault : SettingsFault)
  | file (error : FileError)
  | structural (error : StructureError)
  | value (error : ValueError)
  | noEntry (tenor : Tenor)
  | regionNeeded (path : String)
deriving DecidableEq

namespace CommandError

/-- What is wrong with which file, where details follow. -/
def subject? : CommandError → Option String
  | settings path _ => some ("Configuration error in " ++ path)
  | file (.document path format _) => some (FileError.documentSubject path format)
  | _ => none

/-- The details of a fault of the settings. -/
def describeSettings : SettingsFault → String
  | .unreadable fault => fault.message
  | .content fault => FileError.describe .toml fault

def message : CommandError → String
  | settings path fault => "Configuration error in " ++ path ++ ": " ++ describeSettings fault
  | file error => error.message
  | structural error => error.message
  | value error => error.message
  | noEntry tenor => "No entry covers tenor " ++ tenor.text
  | regionNeeded path => "--holidays needs a region in " ++ path

/-- What the system says about an unreadable file. -/
def cause? : CommandError → Option String
  | file (.unreadable _ fault) => some fault.message
  | _ => none

def report (e : CommandError) : String :=
  "Error: " ++ e.message ++ "\n" ++
    match e.cause? with
    | some cause => "\nCaused by:\n    " ++ cause ++ "\n"
    | none => ""

end CommandError

end TermStructure
