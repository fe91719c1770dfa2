import TermStructure.Error
import TermStructure.Text.Blank

/-!
# Identifiers

An identifier is a value within a scheme, written `SCHEME~VALUE`. Reading splits a trimmed text at
its first tilde and wants both parts nonempty; so a value may hold tildes, and a scheme that is read
holds none.
-/

namespace TermStructure

/-- A value within a scheme. -/
structure Identifier where
  scheme : String
  value : String
deriving DecidableEq, Repr

namespace Identifier

/-- The scheme of financial regions. -/
def regionScheme : String := "FINANCIAL_REGION"

/-- The financial region with a given code. -/
def region (code : String) : Identifier := ⟨regionScheme, code⟩

def text (id : Identifier) : String :=
  id.scheme ++ "~" ++ id.value

instance : ToString Identifier := ⟨text⟩

/-- The characters before and after the first tilde. -/
def splitTilde? : List Char → Option (List Char × List Char)
  | [] => none
  | c :: rest =>
    if c = '~' then some ([], rest)
    else (splitTilde? rest).map fun p => (c :: p.1, p.2)

/-- Reads an identifier from characters without blanks around them. -/
def read? (cs : List Char) : Option Identifier :=
  match splitTilde? cs with
  | some (scheme, value) =>
    if scheme = [] ∨ value = [] then none
    else some ⟨String.ofList scheme, String.ofList value⟩
  | none => none

/-- Reads an identifier with blanks around it. -/
def parse (s : String) : Except ValueError Identifier :=
  match read? (Text.trim s.toList) with
  | some id => .ok id
  | none => .error (.invalidIdentifier s)

end Identifier

end TermStructure
