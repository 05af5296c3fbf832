-- How monitors run: the statements of their methods, and the bodies of user code. A run changes
-- the world and ends by itself, with a fault, or with a crash, which no guard holds back.
import Watchtower.Blueprint.Outline
import Watchtower.Live.World

namespace Watchtower.Live

/-- Why a run ends early. -/
inductive Halt where
  | fault (fault : Fault)
  | crash
deriving DecidableEq, Repr

/-- A run. What it did to the world stays when it halts. -/
abbrev Run (α : Type) := ExceptT Halt (StateM World) α

namespace Run

/-- The run with a fault. -/
def fault (f : Fault) : Run α := throw (.fault f)

/-- The run with an outcome that leaves the world as it is. -/
def ofExcept : Except Fault α → Run α
  | .ok a => pure a
  | .error f => fault f

/-- The run that looks at the world. -/
def ask (f : World → Except Fault α) : Run α := do
  ofExcept (f (← get))

/-- The run that changes the world, unless there is a fault. -/
def update (f : World → Except Fault (α × World)) : Run α := do
  let (a, w) ← ask f
  set w
  return a

/-- The run that changes the world and may have a fault nevertheless. -/
def always (f : World → Except Fault α × World) : Run α := do
  let (outcome, w) := f (← get)
  set w
  ofExcept outcome

/-- A run whose fault is its outcome. -/
def attempt (run : Run α) : Run (Except Fault α) :=
  tryCatch (do return .ok (← run)) fun
    | .fault f => return .error f
    | .crash => throw .crash

/-- A run whose fault is recorded at a site and goes no further. -/
def guarded (site : String) (run : Run α) : Run (Option α) := do
  match ← run.attempt with
  | .ok a => return some a
  | .error f =>
    modify (·.record site f)
    return none

end Run

/-! ## Bodies -/

/-- Runs a body on a thread. Its requests are answered by `answer`. -/
def Body.run (answer : Request → Run Json) (thread : String) : Body → Run Unit
  | .done => pure ()
  | .fail f => Run.fault f
  | .crash => throw .crash
  | .note who entry next => do
    modify (·.note thread who entry)
    next.run answer thread
  | .ask request next => do
    let outcome ← (answer request).attempt
    (next outcome).run answer thread

/-! ## Statements -/

/-- Whether a list of statements goes on to its end. -/
inductive Flow where
  | continues
  | returns
deriving DecidableEq, Repr

section

variable (call : List Stmt → Run Unit) (user : Body → Run Unit) (number : Nat)

/-- Runs the code block with an index. -/
def runBlock (index : Nat) : Run Unit := do
  let m ← Run.ask (·.monitor number)
  match m.bindings.code m.qualifiedName index with
  | some body => user (body number)
  | none => Run.fault (.unbound (m.qualifiedName ++ ".code_" ++ toString index))

/-- Calls a method of the base. -/
def callBase (method : String) : Run Unit := do
  let setPaused (paused : Bool) : Run Unit := Run.update fun w => do
    let m ← w.monitor number
    return ((), { w with monitors := w.monitors.set number { m with paused } })
  match method with
  | "pause" => setPaused true
  | "resume" => setPaused false
  | other => Run.fault (.unknownMember "base method" other)

/-- Calls a method of an event. -/
def callEvent (event method : String) : Run Unit := do
  let source ← Run.ask fun w => do (← w.monitor number).event event
  match method with
  | "pause" => modify (·.pauseSource source)
  | "resume" => modify (·.resumeSource source)
  | other => Run.fault (.unknownMember "event method" other)

mutual

/-- Runs a statement of the monitor with a number. Methods are run by `call`, and user code by
`user`. -/
def runStmt : Stmt → Run Flow
  | .userCode (.block index) _ => do
    runBlock user number index
    return .continues
  | .callSelf method => do
    let method ← Run.ask fun w => do (← w.monitor number).method method
    call method.body
    return .continues
  | .callSuper method => do
    callBase number method
    return .continues
  | .callField event method => do
    callEvent number event method
    return .continues
  | .returnIf state => do
    let m ← Run.ask (·.monitor number)
    return if m.paused = state.isPaused then .returns else .continues
  | .guarded site body => do
    let _ ← Run.guarded site (runStmts body)
    return .continues
  | .constructProxy name space => do
    Run.update fun w => do
      let m ← (← w.monitor number).bindSpace name space
      return ((), { w with monitors := w.monitors.set number m })
    return .continues
  | stmt =>
    Run.fault (.internal ("statement not supported in monitor bodies: " ++ stmt.outline))

/-- Runs statements one after the other, until one of them returns. -/
def runStmts : List Stmt → Run Flow
  | [] => return .continues
  | stmt :: rest => do
    match ← runStmt stmt with
    | .returns => return .returns
    | .continues => runStmts rest

end

/-- Runs a method of a monitor that moves it from one state to the other. A fault is recorded. -/
def transition (name : String) : Run Unit := do
  let m ← Run.ask (·.monitor number)
  let _ ← Run.guarded (m.qualifiedName ++ "::" ++ name) do
    call (← Run.ofExcept (m.method name)).body

end

/-! ## Requests -/

/-- Answers a request. The methods of a monitor are run by `call`. -/
def answer (call : Nat → List Stmt → Run Unit) : Request → Run Json
  | .stop consumer => do
    modify (·.stopConsumer consumer)
    return .null
  | .unschedule job => Run.update fun w => do
    return (.null, { w with schedule := ← w.schedule.unschedule job })
  | .observe source observer => do
    modify (·.modifySource source (·.observe observer))
    return .null
  | .recall monitor name => Run.ask fun w => do
    return (← (← w.monitor monitor).variable_ name).value
  | .assign monitor name value => Run.update (·.assign monitor name value)
  | .subscribe monitor event handler => Run.update fun w => do
    return (.null, ← w.subscribe monitor event handler)
  | .reaches monitor root path => Run.ask fun w => do
    return .bool (← w.reach monitor root path).isSome
  | .get monitor root path name => Run.ask fun w => do
    match ← w.reach monitor root path with
    | some handle => w.get handle name
    | none => .error (.unknownMember "namespace" (Text.join "." (root :: path)))
  | .set monitor root path name value => Run.update fun w => do
    match ← w.reach monitor root path with
    | some handle => w.set handle name value
    | none => .error (.unknownMember "namespace" (Text.join "." (root :: path)))
  | .pause monitor => do
    transition (call monitor) monitor "pause"
    return .null
  | .resume monitor => do
    transition (call monitor) monitor "resume"
    return .null

/-- Runs statements of a monitor on a thread. Calls may be nested so many times; deeper ones
crash. -/
def execute : Nat → String → Nat → List Stmt → Run Unit
  | 0, _, _, _ => throw .crash
  | depth + 1, thread, number, stmts => do
    let _ ← runStmts (execute depth thread number)
      (fun body => body.run (answer (execute depth thread)) thread) number stmts

/-- How many times calls may be nested. -/
def callDepth : Nat := 64

/-- Runs a body on a thread. -/
def Body.perform (thread : String) (body : Body) : Run Unit :=
  body.run (answer (execute callDepth thread)) thread

/-- Pauses a monitor by its own method. -/
def pauseMonitor (thread : String) (number : Nat) : Run Unit :=
  transition (execute callDepth thread number) number "pause"

/-- Resumes a monitor by its own method. -/
def resumeMonitor (thread : String) (number : Nat) : Run Unit :=
  transition (execute callDepth thread number) number "resume"

end Watchtower.Live
