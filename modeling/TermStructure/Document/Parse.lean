import TermStructure.Document.Decode
import TermStructure.Json.Reader
import TermStructure.Toml.Reader

/-!
# Reading values from document texts

A JSON text is read as a stream: the first problem in the order of the text is the answer, and what
follows the document is looked at last. A TOML text must be well formed as a whole before its content
is looked at.
-/

namespace TermStructure

variable {α : Type}

/-- Reads a value from a JSON document. -/
def Json.Document.decode (d : Json.Document) (r : Reader α) : Decoded α :=
  match r .json d.root with
  | .error e => .error e
  | .ok a => if d.complete then .ok a else .error .malformed

/-- Reads a value from the text of a document. -/
def DocumentFormat.parse (format : DocumentFormat) (r : Reader α) (text : String) : Decoded α :=
  match format with
  | .json => (Json.read text).decode r
  | .toml =>
    match Toml.read text with
    | some t => r .toml t
    | none => .error .malformed

end TermStructure
