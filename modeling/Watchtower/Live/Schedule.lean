-- The schedule: jobs by name, each with a cron expression, the data that it is given, and what
-- it does. Jobs fire when they are told to.
import Watchtower.Cron
import Watchtower.Live.Body
import Watchtower.Sorted

namespace Watchtower.Live

/-- The key under which the data of a job holds its expression. -/
def expressionKey : String := "expression"

/-- What a job does with its expression. -/
structure Task where
  /-- The monitor with which the task ends. -/
  owner : Option Nat := none
  run : String → Body

/-- A job. -/
structure Job where
  cron : Cron
  task : Task
  /-- The data of the job, by key. -/
  context : List (String × String)
  paused : Bool := false

/-- The expression in the data of a job. -/
def Job.expression (j : Job) : Except Fault String :=
  match j.context.lookup expressionKey with
  | some expression => .ok expression
  | none => .error (.missingJobData expressionKey)

/-- The jobs, sorted by name. -/
structure Schedule where
  jobs : List (String × Job) := []

namespace Schedule

/-- The job of this name. -/
def job (s : Schedule) (id : String) : Except Fault Job :=
  match s.jobs.lookup id with
  | some job => .ok job
  | none => .error (.unknownJob id)

/-- The names of the jobs, sorted. -/
def ids (s : Schedule) : List String :=
  s.jobs.map (·.1)

/-- Enters a job. Its expression has to be well formed and its name new. -/
def schedule (s : Schedule) (id cron : String) (task : Task) (context : List (String × String)) :
    Except Fault Schedule := do
  let cron ← Cron.parse cron
  if (s.jobs.lookup id).isSome then .error (.duplicateJob id)
  else .ok ⟨Sorted.insert id { cron, task, context } s.jobs⟩

/-- Pauses or resumes a job. -/
def setPaused (s : Schedule) (id : String) (paused : Bool) : Except Fault Schedule := do
  let job ← s.job id
  return ⟨Sorted.insert id { job with paused } s.jobs⟩

/-- Pauses or resumes some jobs. Those that are not there do not matter. -/
def setAllPaused (s : Schedule) (ids : List String) (paused : Bool) : Schedule :=
  ids.foldl (fun s id =>
    match s.setPaused id paused with
    | .ok s => s
    | .error _ => s) s

/-- Takes a job out. -/
def unschedule (s : Schedule) (id : String) : Except Fault Schedule := do
  let _ ← s.job id
  return ⟨s.jobs.filter (·.1 ≠ id)⟩

end Schedule

end Watchtower.Live
