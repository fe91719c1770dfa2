import TermStructure.Document.Format
import TermStructure.File.Error

/-!
# Files by path

`Files` is what a program sees of files: what reading a path gives, and whether there is anything at
a path. A `FileStore` holds files below a working directory; `FileStore.locate` follows a path
through its folders name by name, as far as it leads.
-/

namespace TermStructure

/-- What a program sees of files. -/
structure Files where
  read : String → Except ReadFault String
  present : String → Bool

/-- Files with their bytes, by the names on their paths from a working directory. -/
structure FileStore where
  files : List (List (List Char) × ByteArray)

/-- Where a path leads: to a folder below the working directory, to one outside, or to a file. -/
inductive Location where
  | folder (path : List (List Char))
  | outside
  | file (bytes : ByteArray)

namespace FileStore

/-- The store of some files by the texts of their paths. -/
def ofFiles (files : List (String × ByteArray)) : FileStore :=
  ⟨files.map fun f => (DocumentFormat.pathComponents f.1, f.2)⟩

/-- The longest name, in bytes. -/
def maxName : Nat := 255

/-- The longest path, in bytes. -/
def maxPath : Nat := 4095

/-- What is at a name in a folder. -/
def child (s : FileStore) (path : List (List Char)) (name : List Char) :
    Except ReadFault Location :=
  let path := path ++ [name]
  match s.files.find? (·.1 == path) with
  | some f => .ok (.file f.2)
  | none =>
    if s.files.any fun f => path.isPrefixOf f.1 then .ok (.folder path) else .error .missing

/-- Where a name leads. Single and double dots lead to the folder itself and to the one above. -/
def follow (s : FileStore) (l : Location) (name : List Char) : Except ReadFault Location :=
  match l with
  | .file _ => .error .notFolder
  | .folder path =>
    if name = ['.'] then .ok l
    else if name = ['.', '.'] then .ok (if path = [] then .outside else .folder path.dropLast)
    else if maxName < (String.ofList name).utf8ByteSize then .error .nameTooLong
    else s.child path name
  | .outside =>
    if name = ['.'] ∨ name = ['.', '.'] then .ok l
    else if maxName < (String.ofList name).utf8ByteSize then .error .nameTooLong
    else .error .missing

/-- Where names lead, one after the other. -/
def followAll (s : FileStore) (l : Location) : List (List Char) → Except ReadFault Location
  | [] => .ok l
  | name :: rest =>
    match s.follow l name with
    | .error e => .error e
    | .ok l => s.followAll l rest

/-- The names on a path. A slash at the end stands for the folder itself. -/
def names (path : String) : List (List Char) :=
  let parts := path.toList.splitOn '/'
  parts.filter (· ≠ []) ++ (if parts.getLast? = some [] then [['.']] else [])

/-- Where a path leads from the working directory. -/
def locate (s : FileStore) (path : String) : Except ReadFault Location :=
  if path.toList.contains '\x00' then .error .zeroCharacter
  else if path = "" then .error .missing
  else if maxPath < path.utf8ByteSize then .error .nameTooLong
  else
    let start : Location := if path.toList.head? = some '/' then .outside else .folder []
    s.followAll start (names path)

/-- The text of a file. -/
def read (s : FileStore) (path : String) : Except ReadFault String :=
  match s.locate path with
  | .error e => .error e
  | .ok (.file bytes) =>
    match String.fromUTF8? bytes with
    | some text => .ok text
    | none => .error .notText
  | .ok _ => .error .isFolder

/-- What a program sees of the store. -/
def view (s : FileStore) : Files where
  read := s.read
  present path := (s.locate path).isOk

end FileStore

end TermStructure
