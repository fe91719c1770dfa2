/-!
# Document formats

A document is JSON or TOML. The format of a file is told by the extension of its name: what follows
the last dot of the last component of its path, in any case. A name whose only dot is its first
character has no extension.
-/

namespace TermStructure

inductive DocumentFormat where
  | json
  | toml
deriving DecidableEq, Repr

namespace DocumentFormat

/-- The name of the format, which is also its extension. -/
def name : DocumentFormat → String
  | json => "json"
  | toml => "toml"

instance : ToString DocumentFormat := ⟨name⟩

/-- The components of a path. Empty ones and single dots do not count. -/
def pathComponents (path : String) : List (List Char) :=
  (path.toList.splitOn '/').filter fun c => c != [] && c != ['.']

/-- The extension of a file name. -/
def extensionOf? (name : List Char) : Option (List Char) :=
  let after := name.reverse.takeWhile (· != '.')
  let stem := (name.reverse.drop (after.length + 1)).reverse
  if name = ['.', '.'] ∨ stem = [] then none else some after.reverse

/-- The extension of the last component of a path. -/
def pathExtension? (path : String) : Option (List Char) :=
  (pathComponents path).getLast?.bind extensionOf?

/-- The format of a file by its path. -/
def ofPath? (path : String) : Option DocumentFormat :=
  match (pathExtension? path).map (·.map Char.toLower) with
  | some ['j', 's', 'o', 'n'] => some json
  | some ['t', 'o', 'm', 'l'] => some toml
  | _ => none

end DocumentFormat

end TermStructure
