-- The JSON form of events, and the reading of it.
import Watchtower.Event.Basic
import Watchtower.Json.Record

namespace Watchtower

open Json (Doc)
open Json.Doc

/-! ## Writing -/

/-- The form of a header. -/
def Header.toJson (h : Header) : Json :=
  .obj [("transaction_id", .str h.transaction.text), ("id", .str h.id.text),
    ("timestamp", .str h.time.text)]

/-- The form of a call. -/
def MethodCall.toJson (c : MethodCall) : Json :=
  .obj [("class", .str c.class_), ("method", .str c.method), ("parameters", .ofTexts c.parameters),
    ("arguments", .arr c.arguments)]

/-- The fields of a payload. -/
def Payload.fields : Payload → List (String × Json)
  | .interval expression => [("expression", .str expression)]
  | .invoke call => [("call", call.toJson)]
  | .returned call value => [("call", call.toJson), ("returned", value)]
  | .exception call message => [("call", call.toJson), ("message", .str message)]
  | .timeLapse start stop => [("start", .ofNat start), ("end", .ofNat stop)]
  | .change path previous current =>
    [("previous", previous), ("current", current), ("variable", .str path)]

/-- The form of an event. -/
def Event.toJson (e : Event) : Json :=
  .obj [("type", .str e.kind.name),
    ("payload", .obj (("header", e.header.toJson) :: e.payload.fields))]

/-! ## Reading -/

/-- Reads 32 hexadecimal digits. -/
def Uuid.ofDigits? (cs : List Char) : Option Uuid := do
  guard (cs.length = 32)
  let digits ← cs.mapM Json.hexValue?
  return ⟨digits.foldl (fun n d => n * 16 + d) 0⟩

/-- Reads five groups of digits with hyphens between them. -/
def Uuid.ofGroups? (cs : List Char) : Option Uuid := do
  guard (cs.length = 36 ∧ [8, 13, 18, 23].all fun i => cs[i]? == some '-')
  Uuid.ofDigits? (cs.filter (· != '-'))

/-- Reads an identifier: digits of either case, in groups or not. Groups may stand in braces or
behind a scheme. -/
def Uuid.ofText? (s : String) : Option Uuid :=
  let cs := s.toList
  if cs.length = 32 then Uuid.ofDigits? cs
  else if cs.length = 38 ∧ cs.head? = some '\x7b' ∧ cs.getLast? = some '\x7d' then
    Uuid.ofGroups? ((cs.drop 1).dropLast)
  else if cs.length = 45 ∧ cs.take 9 = "urn:uuid:".toList then Uuid.ofGroups? (cs.drop 9)
  else Uuid.ofGroups? cs

/-- Reads a header. -/
def Header.ofDoc? (doc : Doc) : Option Header := do
  let fields ← doc.record? ["transaction_id", "id", "timestamp"]
  let transaction ← fields.get? "transaction_id" fun d => d.text?.bind Uuid.ofText?
  let id ← fields.get? "id" fun d => d.text?.bind Uuid.ofText?
  let time ← fields.get? "timestamp" fun d => d.text?.bind Timestamp.ofText?
  return ⟨transaction, id, time⟩

/-- Reads a call. The arguments may be missing. -/
def MethodCall.ofDoc? (depth : Nat) (doc : Doc) : Option MethodCall := do
  let fields ← doc.record? ["class", "method", "parameters", "arguments"]
  let class_ ← fields.get? "class" text?
  let method ← fields.get? "method" text?
  let parameters ← fields.get? "parameters" (list? text?)
  let arguments ← fields.getD? "arguments" [] (list? (Doc.value? (depth - 2)))
  return ⟨class_, method, parameters, arguments⟩

/-- The names of the fields of an event of a kind. -/
def EventKind.fieldNames : EventKind → List String
  | .interval => ["header", "expression"]
  | .invoke => ["header", "call"]
  | .returned => ["header", "call", "returned"]
  | .exception => ["header", "call", "message"]
  | .timeLapse => ["header", "start", "end"]
  | .change => ["header", "previous", "current", "variable"]

/-- Reads the payload of an event of a kind, with its header. -/
def Event.ofPayload? (kind : EventKind) (depth : Nat) (doc : Doc) : Option Event := do
  let fields ← doc.record? kind.fieldNames
  let depth := depth - 1
  let header ← fields.get? "header" Header.ofDoc?
  let call := fields.get? "call" (MethodCall.ofDoc? depth)
  let value (name : String) := fields.get? name (Doc.value? depth)
  match kind with
  | .interval => return ⟨header, .interval (← fields.get? "expression" text?)⟩
  | .invoke => return ⟨header, .invoke (← call)⟩
  | .returned => return ⟨header, .returned (← call) (← value "returned")⟩
  | .exception => return ⟨header, .exception (← call) (← fields.get? "message" text?)⟩
  | .timeLapse =>
    return ⟨header, .timeLapse (← fields.get? "start" word?) (← fields.get? "end" word?)⟩
  | .change =>
    return ⟨header, .change (← fields.get? "variable" text?) (← value "previous")
      (← value "current")⟩

/-- Reads the type of an event: its name, or an object with the name and null. -/
def EventKind.ofDoc? : Doc → Option EventKind
  | .str (some name) => EventKind.ofName? name
  | .obj [(some name, .null)] => EventKind.ofName? name
  | _ => none

/-- The payload stands before the type, so it is read before its kind is known. -/
def payloadFirst : List (Option String × Doc) → Bool
  | [] => false
  | (name, _) :: rest =>
    if name = some "type" then false else if name = some "payload" then true else payloadFirst rest

/-- Reads an event: an object with its type and its payload, or an array of the two. A payload
that stands before the type has to be a sound value. -/
def Event.ofDoc? (doc : Doc) : Option Event := do
  let fields ← doc.record? ["type", "payload"]
  let kind ← fields.get? "type" EventKind.ofDoc?
  let payload ← fields.lookup "payload"
  let depth := Json.maxDepth - 1
  match doc with
  | .obj all => guard (!payloadFirst all || payload.isSound depth)
  | _ => pure ()
  Event.ofPayload? kind depth payload

/-- Reads an event from text. -/
def Event.ofText? (text : String) : Option Event :=
  (Doc.ofText? text).bind Event.ofDoc?

end Watchtower
