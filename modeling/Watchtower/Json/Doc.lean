-- Documents: JSON text as it was written, before anything is decided about it. Numbers keep
-- their text, objects keep repeated names, and nesting has no limit.
import Watchtower.Json.Token

namespace Watchtower.Json

/-- A document. A string or a name is missing when its escapes make no text. -/
inductive Doc where
  | null
  | bool (value : Bool)
  | num (text : List Char)
  | str (text : Option String)
  | arr (items : List Doc)
  | obj (fields : List (Option String × Doc))

/-! ## The machine -/

/-- A container that is still open, with what it holds in reverse. -/
inductive Frame where
  | arr (done : List Doc)
  | obj (done : List (Option String × Doc)) (name : Option String)

/-- What may come next. -/
inductive Next where
  | value
  | valueOrEnd
  | name (done : List (Option String × Doc))
  | nameOrEnd
  | colon (done : List (Option String × Doc)) (name : Option String)
  | more (last : Doc)

/-- The machine: the open containers from the innermost, and what may come next. -/
structure Builder where
  stack : List Frame := []
  next : Next := .value

/-- Begins a value. -/
def Builder.value (stack : List Frame) : Token → Option Builder
  | .null => some ⟨stack, .more .null⟩
  | .bool b => some ⟨stack, .more (.bool b)⟩
  | .num text => some ⟨stack, .more (.num text)⟩
  | .str text => some ⟨stack, .more (.str text)⟩
  | .leftBracket => some ⟨.arr [] :: stack, .valueOrEnd⟩
  | .leftBrace => some ⟨stack, .nameOrEnd⟩
  | _ => none

/-- Reads one token. -/
def Builder.step (b : Builder) (t : Token) : Option Builder :=
  match b.next with
  | .value => Builder.value b.stack t
  | .valueOrEnd =>
    match t, b.stack with
    | .rightBracket, _ :: stack => some ⟨stack, .more (.arr [])⟩
    | _, _ => Builder.value b.stack t
  | .name done =>
    match t with
    | .str name => some ⟨b.stack, .colon done name⟩
    | _ => none
  | .nameOrEnd =>
    match t with
    | .str name => some ⟨b.stack, .colon [] name⟩
    | .rightBrace => some ⟨b.stack, .more (.obj [])⟩
    | _ => none
  | .colon done name =>
    match t with
    | .colon => some ⟨.obj done name :: b.stack, .value⟩
    | _ => none
  | .more last =>
    match t, b.stack with
    | .comma, .arr done :: stack => some ⟨.arr (last :: done) :: stack, .value⟩
    | .rightBracket, .arr done :: stack => some ⟨stack, .more (.arr (last :: done).reverse)⟩
    | .comma, .obj done name :: stack => some ⟨stack, .name ((name, last) :: done)⟩
    | .rightBrace, .obj done name :: stack =>
      some ⟨stack, .more (.obj ((name, last) :: done).reverse)⟩
    | _, _ => none

/-- The document of a list of tokens. -/
def Doc.ofTokens? (tokens : List Token) : Option Doc :=
  match tokens.foldlM Builder.step {} with
  | some ⟨[], .more doc⟩ => some doc
  | _ => none

/-- Reads a document. -/
def Doc.ofText? (s : String) : Option Doc :=
  (tokens? s.toList).bind Doc.ofTokens?

/-! ## The value of a document -/

/-- The most containers that may be nested in a value. -/
def maxDepth : Nat := 127

mutual

/-- The value of a document, if its strings and numbers have one and its containers are nested
at most `depth` deep. Of two fields with one name the later counts. -/
def Doc.value? (depth : Nat) : Doc → Option Json
  | .null => some .null
  | .bool b => some (.bool b)
  | .num text => (Number.ofText? text).map .num
  | .str text => text.map .str
  | .arr items =>
    match depth with
    | 0 => none
    | depth + 1 => (Doc.values? depth items).map .arr
  | .obj fields =>
    match depth with
    | 0 => none
    | depth + 1 => (Doc.fieldValues? depth fields).map Json.sortedObj

/-- The values of the items of an array. -/
def Doc.values? (depth : Nat) : List Doc → Option (List Json)
  | [] => some []
  | item :: rest =>
    match Doc.value? depth item, Doc.values? depth rest with
    | some v, some vs => some (v :: vs)
    | _, _ => none

/-- The values of the fields of an object. -/
def Doc.fieldValues? (depth : Nat) : List (Option String × Doc) → Option (List (String × Json))
  | [] => some []
  | (name, item) :: rest =>
    match name, Doc.value? depth item, Doc.fieldValues? depth rest with
    | some name, some v, some vs => some ((name, v) :: vs)
    | _, _, _ => none

end

/-- Reads a value. -/
def ofText (s : String) : Option Json :=
  (Doc.ofText? s).bind (Doc.value? maxDepth)

end Watchtower.Json
