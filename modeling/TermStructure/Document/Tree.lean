import TermStructure.Number.FloatText
import TermStructure.Text.Quoted

/-!
# Document trees

The content of a document as a tree of values. A document may be malformed somewhere; its tree then
holds what stands before that place, and marks the place: a container that is not closed, or a value
that is broken. So whoever reads a tree in the order of the text meets the first problem first,
whether it is one of form or of content.

Two kinds of leaves are well formed but have no value of their own: numbers too large for a double,
and strings with half of a surrogate pair. They matter only to a reader that wants their value.
-/

namespace TermStructure

/-- A number of a document. -/
inductive Number where
  | int (n : Int)
  | float (x : Float)
  | tooLarge
deriving DecidableEq

/-- What a reader met where it wanted something else. -/
inductive Found where
  | null
  | bool (b : Bool)
  | int (n : Int)
  | float (x : Float)
  | string (s : String)
  | array
  | object
deriving DecidableEq

/-- The wording of what was met, with the layout of floating point numbers. -/
def Found.describe (layout : FloatLayout) : Found → String
  | null => "null"
  | bool b => "boolean `" ++ toString b ++ "`"
  | int n => "integer `" ++ toString n ++ "`"
  | float x => "floating point `" ++ FloatText.text layout x ++ "`"
  | string s => "string " ++ Text.quoted s
  | array => "sequence"
  | object => "map"

/-- How a container ends: closed, or before its end by a malformed text. -/
inductive Ending where
  | closed
  | broken
deriving DecidableEq

/-- A string of a document; nothing if it holds half of a surrogate pair. -/
abbrev Key := Option String

/-- A value of a document. The items of an array stand between brackets, or each is a table under a
heading of its own. -/
inductive Tree where
  | null
  | bool (b : Bool)
  | number (n : Number)
  | string (s : Key)
  | date (text : String)
  | array (items : List Tree) (ending : Ending)
  | tables (items : List Tree)
  | object (members : List (Key × Tree)) (ending : Ending)
  | broken

namespace Tree

def ofMembers (members : List (String × Tree)) : Tree :=
  .object (members.map fun m => (some m.1, m.2)) .closed

def ofItems (items : List Tree) : Tree :=
  .array items .closed

def ofText (s : String) : Tree :=
  .string (some s)

def ofFloat (x : Float) : Tree :=
  .number (.float x)

/-- The items of an array, whichever way they are written. -/
def items? : Tree → Option (List Tree × Ending)
  | array items ending => some (items, ending)
  | tables items => some (items, .closed)
  | _ => none

/-- The key under which a date's text stands where an object is wanted. -/
def dateKey : String := "$__toml_private_datetime"

/-- The members of an object. A date counts as an object with one member. -/
def members? : Tree → Option (List (Key × Tree) × Ending)
  | object members ending => some (members, ending)
  | date text => some ([(some dateKey, ofText text)], .closed)
  | _ => none

/-- What a value is called where another kind of value was wanted; nothing if it is malformed or has
no value of its own. -/
def found? : Tree → Option Found
  | null => some .null
  | bool b => some (.bool b)
  | number (.int n) => some (.int n)
  | number (.float x) => some (.float x)
  | number .tooLarge => none
  | string s => s.map .string
  | date _ => some .object
  | array _ _ => some .array
  | tables _ => some .array
  | object _ _ => some .object
  | broken => none

mutual

/-- Whether a value is well formed throughout. -/
def wellFormed : Tree → Bool
  | array items ending => itemsWellFormed items && ending == .closed
  | tables items => itemsWellFormed items
  | object members ending => membersWellFormed members && ending == .closed
  | broken => false
  | _ => true

def itemsWellFormed : List Tree → Bool
  | [] => true
  | t :: rest => t.wellFormed && itemsWellFormed rest

def membersWellFormed : List (Key × Tree) → Bool
  | [] => true
  | m :: rest => m.2.wellFormed && membersWellFormed rest

end

end Tree

end TermStructure
