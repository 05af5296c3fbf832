-- Events: what monitors observe. Each has a header with its identity, and a payload.
import Watchtower.Event.Kind
import Watchtower.Event.Time
import Watchtower.Json.Writer
import Watchtower.Text.Split

namespace Watchtower

/-- An identifier of 128 bits. -/
structure Uuid where
  value : Nat
deriving DecidableEq, Repr

/-- The identity of an event. One intercepted call raises several events of one transaction. -/
structure Header where
  transaction : Uuid
  id : Uuid
  time : Timestamp
deriving DecidableEq, Repr

/-- An intercepted call: the method, the types of its parameters and the arguments. -/
structure MethodCall where
  class_ : String
  method : String
  parameters : List String
  arguments : List Json
deriving Repr

/-- What an event carries. -/
inductive Payload where
  /-- A schedule fired. -/
  | interval (expression : String)
  /-- A call begins. -/
  | invoke (call : MethodCall)
  /-- A call ended with a value. -/
  | returned (call : MethodCall) (value : Json)
  /-- A call failed. -/
  | exception (call : MethodCall) (message : String)
  /-- A call took the time from `start` to `stop`, in nanoseconds. -/
  | timeLapse (start stop : Nat)
  /-- A variable was written, given by its path within its root namespace. -/
  | change (path : String) (previous current : Json)
deriving Repr

/-- The kind of a payload. -/
def Payload.kind : Payload → EventKind
  | .interval .. => .interval
  | .invoke .. => .invoke
  | .returned .. => .returned
  | .exception .. => .exception
  | .timeLapse .. => .timeLapse
  | .change .. => .change

/-- An event. -/
structure Event where
  header : Header
  payload : Payload
deriving Repr

namespace Event

/-- The kind of an event. -/
def kind (e : Event) : EventKind := e.payload.kind

/-- The nanoseconds of a time lapse. -/
def elapsed? (e : Event) : Option Nat :=
  match e.payload with
  | .timeLapse start stop => some (stop - start)
  | _ => none

/-- What is characteristic of an event: the time that a call took, the value that was written,
or else the time of the event in milliseconds. -/
def value (e : Event) : Json :=
  match e.payload with
  | .timeLapse start stop => .ofNat (stop - start)
  | .change _ _ current => current
  | _ => .ofInt e.header.time.millis

end Event

/-! ## Identifiers as text -/

namespace Uuid

/-- So many hexadecimal digits of a number, from the highest. -/
def hexDigits : Nat → Nat → List Char
  | 0, _ => []
  | count + 1, n => hexDigits count (n / 16) ++ [Json.hexDigit n]

/-- The text of an identifier: 32 digits in five groups. -/
def text (u : Uuid) : String :=
  let cs := hexDigits 32 u.value
  let group (first count : Nat) := (cs.drop first).take count
  String.ofList (group 0 8 ++ '-' :: group 8 4 ++ '-' :: group 12 4 ++ '-' :: group 16 4
    ++ '-' :: group 20 12)

end Uuid

namespace Event

/-- The parts of the text that belong to the payload. -/
def payloadTexts : Payload → List String
  | .interval expression => [expression]
  | .invoke call => [call.class_, call.method]
  | .returned call value => [call.class_, call.method, value.compact]
  | .exception call message => [call.class_, call.method, message]
  | .timeLapse .. => []
  | .change path previous _ => [path, previous.compact]

/-- The text of an event: its type, its identity, its payload and its value, with tabs. -/
def text (e : Event) : String :=
  Text.join "\t" ([e.kind.typeName, e.header.transaction.text, e.header.id.text]
    ++ payloadTexts e.payload ++ [e.value.compact])

end Event

end Watchtower
