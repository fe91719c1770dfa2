import TermStructure.Document.Decode

/-!
# Errors of loading files

Why a file cannot be read, and why nothing can be loaded from it.
-/

namespace TermStructure

/-- Why a file cannot be read as a text. -/
inductive ReadFault where
  | missing
  | isFolder
  | notFolder
  | nameTooLong
  | zeroCharacter
  | notText
  | other (description : String)
deriving DecidableEq, Repr

/-- The wording of the system. -/
def ReadFault.message : ReadFault → String
  | missing => "No such file or directory (os error 2)"
  | isFolder => "Is a directory (os error 21)"
  | notFolder => "Not a directory (os error 20)"
  | nameTooLong => "File name too long (os error 36)"
  | zeroCharacter => "file name contained an unexpected NUL byte"
  | notText => "stream did not contain valid UTF-8"
  | other description => description

/-- The name of a format in messages. -/
def DocumentFormat.title : DocumentFormat → String
  | json => "JSON"
  | toml => "TOML"

/-- An error of loading. -/
inductive FileError where
  | unreadable (path : String) (fault : ReadFault)
  | unsupportedFormat (path : String)
  | document (path : String) (format : DocumentFormat) (fault : DecodeFault)
  | structural (error : StructureError)
  | value (error : ValueError)
deriving DecidableEq

namespace FileError

/-- The wording of a fault of a document. -/
def describe (format : DocumentFormat) : DecodeFault → String
  | .malformed => "malformed document"
  | .data fault => fault.message format

/-- The subject of an error of a document: what is wrong with which file. -/
def documentSubject (path : String) (format : DocumentFormat) : String :=
  "Invalid " ++ format.title ++ " in " ++ path

/-- The wording of an error. -/
def message : FileError → String
  | unreadable path fault => "Failed to read " ++ path ++ ": " ++ fault.message
  | unsupportedFormat path => "Unsupported file format for " ++ path ++ ": expected .json or .toml"
  | document path format fault => documentSubject path format ++ ": " ++ describe format fault
  | structural error => error.message
  | value error => error.message

/-- The error of a structure that was loaded, if it is one. -/
def structural? : FileError → Option StructureError
  | structural error => some error
  | _ => none

end FileError

end TermStructure
