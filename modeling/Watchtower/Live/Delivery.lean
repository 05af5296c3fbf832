-- Delivery: the threads of the channels take out what waits and hand it to consumers, sources
-- notify their observers, and the jobs of the schedule fire.
import Watchtower.Live.Execution

namespace Watchtower.Live

/-! ## Observers -/

/-- Notifies an observer. Payloads of another kind are none of its business, and its faults do not
concern the others. -/
def notifyObserver (thread : String) (payload : Payload) (observer : Observer) : Run Unit := do
  if payload.kind = observer.kind ∧ (← get).isAlive observer.owner then
    match ← ((observer.react payload).perform thread).attempt with
    | .ok () => return
    | .error f => if observer.reports then modify (·.record observer.name f)

/-- Notifies the observers of a source, unless it is paused, and gives their number. Those that
subscribe meanwhile are not notified. -/
def notifySource (thread : String) (number : Nat) (payload : Payload) : Run Nat := do
  match (← get).sources[number]? with
  | none => return 0
  | some source =>
    if source.paused then return 0
    source.observers.forM (notifyObserver thread payload)
    return source.observers.length

/-! ## Channels -/

/-- Hands a payload to a listener. -/
def Listener.receive (thread : String) (payload : Payload) : Listener → Run Unit
  | .callback react => (react payload).perform thread
  | .source number => do
    if (← get).sources[number]?.any (·.accepts payload) then
      let _ ← notifySource thread number payload

namespace World

/-- The consumer that listens to a channel. -/
def consumerOf? (w : World) (channel : Nat) : Option Consumer :=
  w.consumers.find? (·.channels.contains channel)

/-- A step of the thread of a channel. A listener that crashes loses its payload, and the thread
goes on. -/
def deliverNext (w : World) (channel : Nat) : World :=
  match w.bus.take channel with
  | some (.deliver payload, bus) =>
    match w.consumerOf? channel with
    | some consumer =>
      (Listener.receive consumer.config.queue payload consumer.listener { w with bus }).2
    | none => { w with bus }
  | some (_, bus) => { w with bus }
  | none => w

/-- Delivers all that waits in a channel now. -/
def drain (w : World) (channel : Nat) : World :=
  (List.range (w.bus.waitingIn channel)).foldl (fun w _ => w.deliverNext channel) w

/-- Delivers all that waits in any channel now. -/
def flush (w : World) : World :=
  let w := { w with bus := w.bus.beginFlush }
  (List.range w.bus.channels.length).foldl drain w

/-- Flushes until nothing waits, but so many times at most. -/
def settle : Nat → World → World
  | 0, w => w
  | rounds + 1, w => if w.bus.isQuiet then w else settle rounds w.flush

/-! ## Endings -/

/-- Stops a consumer, and waits until all that was in its channels is delivered. -/
def finishConsumer (w : World) (number : Nat) : World :=
  match w.consumers[number]? with
  | none => w
  | some c => c.channels.foldl drain (w.stopConsumer number)

/-- The holder of a source drops it: its consumer is stopped. -/
def dropSource (w : World) (number : Nat) : World :=
  match w.sources[number]?.bind (·.consumer) with
  | none => w
  | some consumer => w.finishConsumer consumer

/-- The holder of a monitor drops it, and its events with it. Its jobs stay, and do nothing. -/
def dropMonitor (w : World) (number : Nat) : World :=
  match w.monitors[number]? with
  | none => w
  | some m =>
    (m.events.map (·.2)).foldl dropSource
      { w with monitors := w.monitors.set number { m with dropped := true } }

end World

/-! ## Jobs -/

/-- Fires a job, unless it is paused. The outcome says whether it ran. -/
def fire (thread id : String) : Run Bool := do
  let job ← Run.ask (·.schedule.job id)
  if job.paused then return false
  let expression ← Run.ofExcept job.expression
  if (← get).isAlive job.task.owner then (job.task.run expression).perform thread
  return true

/-- Fires all jobs in the order of their names, and gives the number of those that ran well. -/
def fireAll (thread : String) : Run Nat := do
  let outcomes ← (← get).schedule.ids.mapM fun id => (fire thread id).attempt
  return outcomes.countP fun
    | .ok ran => ran
    | .error _ => false

/-! ## Handlers -/

/-- Runs the body of a handler of a monitor. -/
def dispatch (thread : String) (number : Nat) (handler : String) (payload : Payload) :
    Run Unit := do
  let m ← Run.ask (·.monitor number)
  (m.bindings.reaction m.qualifiedName number handler payload).perform thread

/-! ## Plain monitors -/

/-- A monitor with a state of its own and with the sources that it is given. -/
structure Core where
  name : String
  paused : Bool := false

/-- Pauses a monitor and then its sources. The outcome says whether it was running. -/
def Core.pause (c : Core) (w : World) (sources : List Nat) : Bool × Core × World :=
  if c.paused then (false, c, w)
  else (true, { c with paused := true }, sources.foldl World.pauseSource w)

/-- Resumes the sources of a monitor and then itself. The outcome says whether it was paused. -/
def Core.resume (c : Core) (w : World) (sources : List Nat) : Bool × Core × World :=
  if c.paused then (true, { c with paused := false }, sources.foldl World.resumeSource w)
  else (false, c, w)

end Watchtower.Live
