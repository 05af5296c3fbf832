-- Sources of events: what the events of a monitor are at run time. A source is raised by a
-- schedule, by a probe or by the writes to a variable, and can be paused.
import Watchtower.Blueprint.Predicate
import Watchtower.Live.Schedule

namespace Watchtower.Live

/-- A predicate with the values of its thresholds. -/
structure ChangeFilter where
  predicate : Predicate
  thresholds : Thresholds

/-- The filter lets a change pass. What it cannot judge it does not let pass. -/
def ChangeFilter.passes (f : ChangeFilter) (previous current : Json) : Bool :=
  match f.predicate.evaluate f.thresholds previous current with
  | .ok holds => holds
  | .error _ => false

/-- What raises a source. -/
inductive Trigger where
  | schedule (cron : String)
  /-- A probe at an expression. -/
  | probe (kind : EventKind) (expression : String)
  /-- The writes to a variable, by its root namespace and the path below it. -/
  | change (space path : String) (filter : Option ChangeFilter)
  /-- Nothing but its holder. -/
  | manual

/-- A source of events. -/
structure Source where
  name : String
  trigger : Trigger
  paused : Bool := false
  /-- The observers of a probe or a variable, in the order of their subscription. -/
  observers : List Observer := []
  /-- The jobs of a schedule, in the order of their subscription. -/
  jobs : List String := []
  /-- The routing key of its probe, once that is open. -/
  probe : Option String := none
  /-- The number of its consumer, once that is started. -/
  consumer : Option Nat := none

namespace Source

/-- The source is raised by a schedule. Such a source has jobs and no observers. -/
def isPeriodic (s : Source) : Bool :=
  match s.trigger with
  | .schedule _ => true
  | _ => false

/-- Only its holder raises the source. -/
def isManual (s : Source) : Bool :=
  match s.trigger with
  | .manual => true
  | _ => false

/-- The kind of the events. -/
def kind (s : Source) : EventKind :=
  match s.trigger with
  | .schedule _ | .manual => .interval
  | .probe kind _ => kind
  | .change .. => .change

/-- The text of what raises the source. -/
def emitter (s : Source) : String :=
  match s.trigger with
  | .schedule cron => "cron(" ++ cron ++ ")"
  | .probe _ expression => expression
  | .change space path _ => if path.isEmpty then space else space ++ "." ++ path
  | .manual => ""

/-- The consumer of the source passes a payload on: one of its kind, or a change of just its
variable that the filter lets pass. -/
def accepts (s : Source) (payload : Payload) : Bool :=
  match s.trigger, payload with
  | .probe kind _, payload => payload.kind = kind
  | .change _ path filter, .change written previous current =>
    written = path && filter.all (·.passes previous current)
  | _, _ => false

/-! ## Pausing -/

/-- Pauses a source and its jobs. One that is paused stays as it is, with its jobs. -/
def pause (s : Source) (schedule : Schedule) : Source × Schedule :=
  if s.paused then (s, schedule)
  else ({ s with paused := true }, schedule.setAllPaused s.jobs true)

/-- Resumes a source and its jobs. One that runs stays as it is, with its jobs. -/
def resume (s : Source) (schedule : Schedule) : Source × Schedule :=
  if s.paused then ({ s with paused := false }, schedule.setAllPaused s.jobs false)
  else (s, schedule)

/-! ## Subscribing -/

/-- Adds an observer. -/
def observe (s : Source) (observer : Observer) : Source :=
  { s with observers := s.observers ++ [observer] }

/-- Schedules a task of a handler for a source with this cron expression, under the names of both.
A paused source begins with a paused job. -/
def subscribeJob (s : Source) (schedule : Schedule) (cron handler : String) (task : Task) :
    Except Fault (String × Source × Schedule) := do
  let id := s.name ++ "." ++ handler
  let schedule ← schedule.schedule id cron task [(expressionKey, cron)]
  let schedule := if s.paused then schedule.setAllPaused [id] true else schedule
  return (id, { s with jobs := s.jobs ++ [id] }, schedule)

end Source

end Watchtower.Live
