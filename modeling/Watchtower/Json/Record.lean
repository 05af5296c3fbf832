-- Reading records and choices from documents. A record is an object, or an array with its
-- fields in order; a choice is a record with a tag.
import Watchtower.Json.Doc

namespace Watchtower.Json.Doc

/-! ## Plain values -/

/-- A text. -/
def text? : Doc → Option String
  | .str text => text
  | _ => none

/-- A truth value. -/
def bool? : Doc → Option Bool
  | .bool value => some value
  | _ => none

/-- A whole number of 64 bits without sign. -/
def word? : Doc → Option Nat
  | .num text =>
    match Number.ofText? text with
    | some (.int n) => if 0 ≤ n then some n.toNat else none
    | _ => none
  | _ => none

/-- The items of an array, each read by `read`. -/
def list? (read : Doc → Option α) : Doc → Option (List α)
  | .arr items => items.mapM read
  | _ => none

/-- A value that may be null. -/
def nullable? (read : Doc → Option α) : Doc → Option (Option α)
  | .null => some none
  | doc => (read doc).map some

/-- The document is a value: its strings and numbers are sound, and it is nested at most
`depth` deep. -/
def isSound (depth : Nat) (doc : Doc) : Bool :=
  (doc.value? depth).isSome

/-! ## Records -/

/-- The fields of a record that are there, by name. -/
abbrev Fields := List (String × Doc)

/-- The known fields of an object. A known field may stand there once, and every name must be
a text. -/
def knownFields? (names : List String) : List (Option String × Doc) → Option Fields
  | [] => some []
  | (none, _) :: _ => none
  | (some name, doc) :: rest => do
    let fields ← knownFields? names rest
    if names.contains name then
      if (fields.lookup name).isSome then none else some ((name, doc) :: fields)
    else some fields

/-- The fields of a record with these names. In an array the last ones may be missing. -/
def record? (names : List String) : Doc → Option Fields
  | .obj fields => knownFields? names fields
  | .arr items => if items.length ≤ names.length then some (names.zip items) else none
  | _ => none

/-- A field that has to be there. -/
def Fields.get? (fields : Fields) (name : String) (read : Doc → Option α) : Option α :=
  (fields.lookup name).bind read

/-- A field with a default. -/
def Fields.getD? (fields : Fields) (name : String) (default : α) (read : Doc → Option α) :
    Option α :=
  match fields.lookup name with
  | none => some default
  | some doc => read doc

/-- A field that may be missing or null. -/
def Fields.opt? (fields : Fields) (name : String) (read : Doc → Option α) : Option (Option α) :=
  fields.getD? name none (nullable? read)

/-! ## Choices -/

/-- The tag of a choice: one of the names, or its position where `byIndex` allows it. -/
def tag? (byIndex : Bool) (names : List String) : Doc → Option String
  | .str (some name) => if names.contains name then some name else none
  | .num text =>
    if byIndex then ((Doc.num text).word?).bind (names[·]?) else none
  | _ => none

/-- The object without the field that is its tag, and the tag. The tag may stand there once. -/
def cutTag? (tagName : String) :
    List (Option String × Doc) → Option (Option Doc × List (Option String × Doc))
  | [] => some (none, [])
  | (name, doc) :: rest => do
    let (tag, fields) ← cutTag? tagName rest
    if name = some tagName then if tag.isSome then none else some (some doc, fields)
    else some (tag, (name, doc) :: fields)

/-- A choice between records: the tag, and the fields of its record. In an array the tag comes
first. -/
def choice? (byIndex : Bool) (variants : List (String × List String)) :
    Doc → Option (String × Fields)
  | .obj fields => do
    let (tag, fields) ← cutTag? "kind" fields
    let tag ← tag? byIndex (variants.map (·.1)) (← tag)
    let fields ← knownFields? ((variants.lookup tag).getD []) fields
    return (tag, fields)
  | .arr (tag :: items) => do
    let tag ← tag? byIndex (variants.map (·.1)) tag
    let fields ← record? ((variants.lookup tag).getD []) (.arr items)
    return (tag, fields)
  | _ => none

/-- One of some names: the name itself, or an object with the name and nothing in it. -/
def plainChoice? (names : List String) : Doc → Option String
  | .str (some name) => if names.contains name then some name else none
  | .obj [(some name, .null)] => if names.contains name then some name else none
  | .obj [(some name, .obj [])] => if names.contains name then some name else none
  | _ => none

end Watchtower.Json.Doc
