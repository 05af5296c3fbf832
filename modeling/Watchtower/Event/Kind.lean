-- The kinds of events that a monitor can observe.
import Watchtower.Text.Split

namespace Watchtower

/-- The kind of an event. -/
inductive EventKind where
  | interval
  | invoke
  | returned
  | exception
  | timeLapse
  | change
deriving DecidableEq, Repr

namespace EventKind

/-- All kinds. -/
def all : List EventKind := [.interval, .invoke, .returned, .exception, .timeLapse, .change]

/-- The short name of a kind. -/
def name : EventKind → String
  | .interval => "Interval"
  | .invoke => "Invoke"
  | .returned => "Return"
  | .exception => "Exception"
  | .timeLapse => "TimeLapse"
  | .change => "Change"

/-- The type of the events of a kind, as handlers declare it. -/
def typeName (kind : EventKind) : String := kind.name ++ "Event"

/-- The kind with this short name. -/
def ofName? (name : String) : Option EventKind :=
  all.find? (·.name == name)

/-- The kind with this type name. The name may be qualified with dots or colons. -/
def ofTypeName? (name : String) : Option EventKind :=
  let simple := Text.lastPiece (fun c => c == '.' || c == ':') name
  all.find? (·.typeName == simple)

end EventKind

end Watchtower
