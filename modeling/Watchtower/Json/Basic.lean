-- JSON values: what variables hold, what change events carry, and what is written to files.
import Watchtower.Sorted

namespace Watchtower

/-- A JSON number: a whole number of at most 64 bits, or a double given by its bits. -/
inductive Number where
  | int (value : Int)
  | float (bits : UInt64)
deriving DecidableEq, Repr

/-- A JSON value. The fields of an object stand in the order in which they are written. -/
inductive Json where
  | null
  | bool (value : Bool)
  | num (value : Number)
  | str (text : String)
  | arr (items : List Json)
  | obj (fields : List (String × Json))
deriving Repr

namespace Json

/-- A whole number. -/
def ofInt (n : Int) : Json := .num (.int n)

/-- A count. -/
def ofNat (n : Nat) : Json := ofInt n

/-- A list of texts. -/
def ofTexts (texts : List String) : Json := .arr (texts.map .str)

/-- A text, or null. -/
def ofText? : Option String → Json
  | none => .null
  | some text => .str text

/-- An object with its fields sorted by name. Of two fields with one name the later counts. -/
def sortedObj (fields : List (String × Json)) : Json := .obj (Sorted.ofList fields)

/-- The field of an object. -/
def get? (name : String) : Json → Option Json
  | .obj fields => fields.lookup name
  | _ => none

/-- The text of a string value. -/
def text? : Json → Option String
  | .str text => some text
  | _ => none

end Json

end Watchtower
