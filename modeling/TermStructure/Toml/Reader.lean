import TermStructure.Toml.Moment
import TermStructure.Toml.Node
import TermStructure.Toml.Number

/-!
# Reading TOML documents

A document is a sequence of lines: blank ones, keys with values, and headings. Arrays may go over
several lines, tables between braces may not. `Toml.read` gives the whole document as a tree, or
nothing if it is malformed anywhere.
-/

namespace TermStructure.Toml

/-! ## Values -/

/-- A value other than an array or a table. -/
def scanLeaf : Scan Tree
  | 't' :: 'r' :: 'u' :: 'e' :: rest => some (.bool true, rest)
  | 'f' :: 'a' :: 'l' :: 's' :: 'e' :: rest => some (.bool false, rest)
  | cs =>
    let text := (scanText cs).map fun (s, rest) => (Tree.ofText s, rest)
    let moment := (scanMoment cs).map fun (s, rest) => (Tree.date s, rest)
    let number := (scanNumber cs).map fun (n, rest) => (Tree.number n, rest)
    text.or (moment.or number)

/-- The items of an array up to its end. The fuel exceeds the number of items. -/
def scanItems (item : Scan Tree) : Nat → Scan (List Tree)
  | 0, _ => none
  | fuel + 1, cs =>
    match skipLines false cs with
    | none => none
    | some (']' :: rest) => some ([], rest)
    | some cs =>
      match item cs with
      | none => none
      | some (t, cs) =>
        match skipLines false cs with
        | some (',' :: rest) =>
          (scanItems item fuel rest).map fun (ts, rest) => (t :: ts, rest)
        | some (']' :: rest) => some ([t], rest)
        | _ => none

/-- A key, an equals sign and a value. -/
def scanPair? (value : Scan Tree) : Scan (List String × Tree) := fun cs =>
  match scanKey maxDepth cs with
  | some (path, '=' :: rest) =>
    (value (skipGap rest)).map fun (t, rest) => ((path, t), rest)
  | _ => none

/-- The keys and values of a table up to its closing brace, of which there is at least one. The fuel
exceeds their number. -/
def scanPairs (value : Scan Tree) : Nat → Scan (List (List String × Tree))
  | 0, _ => none
  | fuel + 1, cs =>
    match scanPair? value cs with
    | none => none
    | some (p, cs) =>
      match skipGap cs with
      | ',' :: rest => (scanPairs value fuel rest).map fun (ps, rest) => (p :: ps, rest)
      | '\x7d' :: rest => some ([p], rest)
      | _ => none

/-- A table after its opening brace. -/
def scanTable (value : Scan Tree) : Scan Tree := fun cs =>
  match skipGap cs with
  | '\x7d' :: rest => some (.ofMembers [], rest)
  | cs =>
    match scanPairs value (cs.length + 1) cs with
    | none => none
    | some (ps, rest) => (Entries.ofPairs ps).map fun t => (t, rest)

/-- A value in which arrays and tables are nested up to a depth. -/
def scanValue (depth : Nat) : Scan Tree := fun cs =>
  match depth, cs with
  | depth + 1, '[' :: rest =>
    (scanItems (scanValue depth) (rest.length + 1) rest).map fun (ts, rest) => (.ofItems ts, rest)
  | depth + 1, '\x7b' :: rest => scanTable (scanValue depth) rest
  | _, cs => scanLeaf cs

/-! ## Lines -/

inductive Line where
  | pair (path : List String) (t : Tree)
  | heading (h : Heading)

/-- A heading after its first bracket. -/
def scanHeading : Scan Heading
  | '[' :: rest =>
    match scanKey maxDepth rest with
    | some (path, ']' :: ']' :: rest) => some (⟨path, true⟩, rest)
    | _ => none
  | cs =>
    match scanKey maxDepth cs with
    | some (path, ']' :: rest) => some (⟨path, false⟩, rest)
    | _ => none

/-- A line, up to a comment or its end. -/
def scanLine : Scan Line
  | '[' :: rest => (scanHeading rest).map fun (h, rest) => (.heading h, rest)
  | cs => (scanPair? (scanValue maxDepth) cs).map fun ((path, t), rest) => (.pair path t, rest)

/-- All lines that say something. The fuel exceeds the number of lines. -/
def scanLines : Nat → List Char → Option (List Line)
  | 0, _ => none
  | fuel + 1, cs =>
    match skipGap cs with
    | [] => some []
    | cs =>
      match lineEnd? cs with
      | some rest => scanLines fuel rest
      | none =>
        match scanLine cs with
        | none => none
        | some (line, cs) =>
          match lineEnd? cs with
          | some rest => (scanLines fuel rest).map (line :: ·)
          | none => none

/-! ## Documents -/

/-- The leading keys with values, and the lines from the first heading on. -/
def leadingPairs : List Line → List (List String × Tree) × List Line
  | .pair path t :: rest =>
    let (pairs, rest) := leadingPairs rest
    ((path, t) :: pairs, rest)
  | lines => ([], lines)

/-- The sections: headings with the keys and values below them. -/
def sections : List Line → List (Heading × List (List String × Tree))
  | [] => []
  | .heading h :: rest => (h, (leadingPairs rest).1) :: sections rest
  | .pair _ _ :: rest => sections rest

def treeOfLines (lines : List Line) : Option Tree :=
  let root := Entries.assignAll [] (leadingPairs lines).1
  let all := (sections lines).foldl (fun es? s => es?.bind fun es => es.addSection s.1 s.2) root
  all.map fun es => (Node.table .written es).toTree

/-- Reads a document. A byte order mark in front does not count. -/
def read (s : String) : Option Tree :=
  let cs := match s.toList with
    | '\uFEFF' :: rest => rest
    | cs => cs
  (scanLines (cs.length + 1) cs).bind treeOfLines

end TermStructure.Toml
