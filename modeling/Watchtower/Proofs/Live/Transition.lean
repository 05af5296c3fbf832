-- The transitions of monitors: pausing runs the lowered method of a monitor, and so pauses the
-- monitor and all its sources, unless it is paused; resuming undoes that in the other order. Each
-- source is called once on the way.
import Watchtower.Blueprint.Monitor
import Watchtower.Proofs.Live.Run
import Watchtower.Proofs.Tables

namespace Watchtower.Live

theorem set_eq_modify {α : Type} {items : List α} {i : Nat} {a : α} (h : items[i]? = some a)
    (f : α → α) : items.set i (f a) = items.modify i f := by
  have hlt : i < items.length := (List.getElem?_eq_some_iff.mp h).1
  apply List.ext_getElem?
  intro j
  rw [List.getElem?_set, List.getElem?_modify]
  by_cases hij : i = j
  · subst hij
    simp only [h, hlt, if_true]
    rfl
  · simp [hij]

theorem set_of_getElem? {α : Type} {items : List α} {i : Nat} {a : α} (h : items[i]? = some a) :
    items.set i a = items := by
  obtain ⟨hlt, rfl⟩ := List.getElem?_eq_some_iff.mp h
  exact List.set_getElem_self hlt

/-! ## Statements -/

section

variable {call : List Stmt → Run Unit} {user : Body → Run Unit} {number : Nat} {w w' : World}

theorem runStmts_cons_of_continues {stmt : Stmt} {rest : List Stmt}
    (h : runStmt call user number stmt w = (.ok .continues, w')) :
    runStmts call user number (stmt :: rest) w = runStmts call user number rest w' := by
  rw [runStmts, bind_of_ok h]

theorem runStmts_cons_of_returns {stmt : Stmt} {rest : List Stmt}
    (h : runStmt call user number stmt w = (.ok .returns, w')) :
    runStmts call user number (stmt :: rest) w = (.ok .returns, w') := by
  rw [runStmts, bind_of_ok h]
  rfl

theorem monitor_eq_ok {m : Monitor} (h : w.monitors[number]? = some m) :
    w.monitor number = .ok m := by
  unfold World.monitor
  rw [h]

theorem getElem?_of_monitor {m : Monitor} (h : w.monitor number = .ok m) :
    w.monitors[number]? = some m := by
  unfold World.monitor at h
  split at h
  · cases h
    assumption
  · cases h

theorem returnIf_of_eq {m : Monitor} (h : w.monitors[number]? = some m) {state : RunState}
    (hstate : m.paused = state.isPaused) :
    runStmt call user number (.returnIf state) w = (.ok .returns, w) := by
  rw [runStmt, bind_of_ok (Run.ask_of_ok (monitor_eq_ok h)), if_pos hstate]
  rfl

theorem returnIf_of_ne {m : Monitor} (h : w.monitors[number]? = some m) {state : RunState}
    (hstate : m.paused ≠ state.isPaused) :
    runStmt call user number (.returnIf state) w = (.ok .continues, w) := by
  rw [runStmt, bind_of_ok (Run.ask_of_ok (monitor_eq_ok h)), if_neg hstate]
  rfl

/-- The name of the transition to a state. -/
def transitionTo (paused : Bool) : String := if paused then "pause" else "resume"

/-- Sets the flag of a monitor. -/
def World.flagMonitor (w : World) (number : Nat) (m : Monitor) (paused : Bool) : World :=
  { w with monitors := w.monitors.set number { m with paused } }

/-- Pauses or resumes a source. -/
def World.steerSource (paused : Bool) (w : World) (source : Nat) : World :=
  if paused then w.pauseSource source else w.resumeSource source

/-- Steering a source does nothing but that: the parts of the world that it leaves. -/
theorem World.steerSource_monitors (paused : Bool) (w : World) (source : Nat) :
    (w.steerSource paused source).monitors = w.monitors := by
  unfold World.steerSource World.pauseSource World.resumeSource
  cases w.sources[source]? with
  | none => simp
  | some s => cases paused <;> rfl

theorem foldl_steerSource_monitors (paused : Bool) (w : World) (sources : List Nat) :
    (sources.foldl (World.steerSource paused) w).monitors = w.monitors := by
  induction sources generalizing w with
  | nil => rfl
  | cons source rest ih => rw [List.foldl_cons, ih, World.steerSource_monitors]

theorem callSuper_eq {m : Monitor} (h : w.monitors[number]? = some m) (paused : Bool) :
    runStmt call user number (.callSuper (transitionTo paused)) w =
      (.ok .continues, w.flagMonitor number m paused) := by
  have hbase : callBase number (transitionTo paused) w = (.ok (), w.flagMonitor number m paused) := by
    unfold callBase
    cases paused with
    | false =>
      apply Run.update_of_ok
      rw [monitor_eq_ok h]
      rfl
    | true =>
      apply Run.update_of_ok
      rw [monitor_eq_ok h]
      rfl
  rw [runStmt, bind_of_ok hbase]
  rfl

theorem callField_eq {m : Monitor} (h : w.monitors[number]? = some m) {event : String}
    {source : Nat} (hevent : m.events.lookup event = some source) (paused : Bool) :
    runStmt call user number (.callField event (transitionTo paused)) w =
      (.ok .continues, w.steerSource paused source) := by
  have hask : Run.ask (fun w => do (← w.monitor number).event event) w = (.ok source, w) := by
    apply Run.ask_of_ok
    rw [monitor_eq_ok h]
    show m.event event = .ok source
    unfold Monitor.event
    rw [hevent]
  have hcall : callEvent number event (transitionTo paused) w =
      (.ok (), w.steerSource paused source) := by
    unfold callEvent
    rw [bind_of_ok hask]
    cases paused <;> rfl
  rw [runStmt, bind_of_ok hcall]
  rfl

end

/-! ## Transitions -/

/-- The transitions of a monitor reach all its events, each under a name of its own. -/
structure Monitor.IsSteered (m : Monitor) : Prop where
  pauses : m.method "pause" = .ok (pauseMethod (m.events.map (·.1)))
  resumes : m.method "resume" = .ok (resumeMethod (m.events.map (·.1)))
  names : (m.events.map (·.1)).Nodup

/-- The world after a transition of a monitor. -/
def World.steer (w : World) (number : Nat) (m : Monitor) (paused : Bool) : World :=
  if m.paused = paused then w
  else (m.events.map (·.2)).foldl (World.steerSource paused) (w.flagMonitor number m paused)

theorem World.steerSource_flagMonitor (w : World) (number : Nat) (m : Monitor)
    (flag paused : Bool) (source : Nat) : (w.flagMonitor number m flag).steerSource paused source =
      (w.steerSource paused source).flagMonitor number m flag := by
  have hsources : (w.flagMonitor number m flag).sources = w.sources := rfl
  unfold World.steerSource World.pauseSource World.resumeSource
  rw [hsources]
  cases w.sources[source]? with
  | none => cases paused <;> rfl
  | some s => cases paused <;> rfl

theorem foldl_steerSource_flagMonitor (w : World) (number : Nat) (m : Monitor)
    (flag paused : Bool) (sources : List Nat) :
    sources.foldl (World.steerSource paused) (w.flagMonitor number m flag) =
      (sources.foldl (World.steerSource paused) w).flagMonitor number m flag := by
  induction sources generalizing w with
  | nil => rfl
  | cons source rest ih =>
    rw [List.foldl_cons, List.foldl_cons, World.steerSource_flagMonitor, ih]

theorem Monitor.IsSteered.lookup {m : Monitor} (h : m.IsSteered) :
    ∀ event ∈ m.events, m.events.lookup event.1 = some event.2 :=
  fun _ hevent => lookup_of_mem h.names hevent

/-! ## Forwarded calls -/

/-- How the statements of a transition run: what they call of the sources of the monitor, each call
with the state to which it moves its source, and the world that they leave. -/
inductive Forwards (number : Nat) : List Stmt → World → List (Nat × Bool) → World → Prop where
  | done (w : World) : Forwards number [] w [] w
  | returns {m : Monitor} {state : RunState} {rest : List Stmt} {w : World}
      (hm : w.monitors[number]? = some m) (hstate : m.paused = state.isPaused) :
      Forwards number (.returnIf state :: rest) w [] w
  | continues {m : Monitor} {state : RunState} {rest : List Stmt} {w w' : World}
      {calls : List (Nat × Bool)} (hm : w.monitors[number]? = some m)
      (hstate : m.paused ≠ state.isPaused) (hrest : Forwards number rest w calls w') :
      Forwards number (.returnIf state :: rest) w calls w'
  | base {m : Monitor} (paused : Bool) {rest : List Stmt} {w w' : World} {calls : List (Nat × Bool)}
      (hm : w.monitors[number]? = some m)
      (hrest : Forwards number rest (w.flagMonitor number m paused) calls w') :
      Forwards number (.callSuper (transitionTo paused) :: rest) w calls w'
  | event {m : Monitor} {event : String} {source : Nat} {paused : Bool} {rest : List Stmt}
      {w w' : World} {calls : List (Nat × Bool)} (hm : w.monitors[number]? = some m)
      (hevent : m.events.lookup event = some source)
      (hrest : Forwards number rest (w.steerSource paused source) calls w') :
      Forwards number (.callField event (transitionTo paused) :: rest) w
        ((source, paused) :: calls) w'

/-- Statements that forward calls run to their end, and leave what they are said to leave. -/
theorem Forwards.run {number : Nat} {stmts : List Stmt} {w w' : World} {calls : List (Nat × Bool)}
    (h : Forwards number stmts w calls w') (call : List Stmt → Run Unit) (user : Body → Run Unit) :
    ∃ flow, runStmts call user number stmts w = (.ok flow, w') := by
  induction h with
  | done w => exact ⟨.continues, rfl⟩
  | returns hm hstate => exact ⟨.returns, runStmts_cons_of_returns (returnIf_of_eq hm hstate)⟩
  | continues hm hstate hrest ih =>
    rw [runStmts_cons_of_continues (returnIf_of_ne hm hstate)]
    exact ih
  | base paused hm hrest ih =>
    rw [runStmts_cons_of_continues (callSuper_eq hm _)]
    exact ih
  | event hm hevent hrest ih =>
    rw [runStmts_cons_of_continues (callField_eq hm hevent _)]
    exact ih

/-- Calls of the events of a monitor reach their sources, one after the other. -/
theorem forwards_events {number : Nat} {w w' : World} {m : Monitor}
    (h : w.monitors[number]? = some m) (paused : Bool) {events : List (String × Nat)}
    (hevents : ∀ event ∈ events, m.events.lookup event.1 = some event.2) {rest : List Stmt}
    {calls : List (Nat × Bool)}
    (hrest : Forwards number rest ((events.map (·.2)).foldl (World.steerSource paused) w) calls w') :
    Forwards number (((events.map (·.1)).map fun event =>
        .callField event (transitionTo paused)) ++ rest) w
      ((events.map (·.2)).map (·, paused) ++ calls) w' := by
  induction events generalizing w with
  | nil => exact hrest
  | cons event others ih =>
    refine .event h (hevents event List.mem_cons_self) (ih ?_ ?_ hrest)
    · rw [World.steerSource_monitors, h]
    · exact fun e he => hevents e (List.mem_cons_of_mem _ he)

/-- The calls that a transition forwards: one to each source, unless the monitor is in that state. -/
def Monitor.forwarded (m : Monitor) (paused : Bool) : List (Nat × Bool) :=
  if m.paused = paused then [] else (m.events.map (·.2)).map (·, paused)

/-- A transition of a monitor forwards its calls: pausing after the monitor itself is paused, and
resuming before it is resumed. -/
theorem Monitor.IsSteered.forwards {m : Monitor} (hm : m.IsSteered) {number : Nat} {w : World}
    (h : w.monitors[number]? = some m) (paused : Bool) :
    ∃ method, m.method (transitionTo paused) = .ok method ∧
      Forwards number method.body w (m.forwarded paused) (w.steer number m paused) := by
  unfold Monitor.forwarded World.steer
  cases paused with
  | true =>
    refine ⟨_, hm.pauses, ?_⟩
    by_cases hpaused : m.paused = true
    · rw [if_pos hpaused, if_pos hpaused]
      exact .returns h hpaused
    · rw [if_neg hpaused, if_neg hpaused]
      have hm' : (w.flagMonitor number m true).monitors[number]? =
          some { m with paused := true } := by
        have hlt : number < w.monitors.length := (List.getElem?_eq_some_iff.mp h).1
        simp [World.flagMonitor, hlt]
      have hevents := forwards_events hm' true hm.lookup (.done _)
      rw [List.append_nil, List.append_nil] at hevents
      have hbase := Forwards.base true h hevents
      exact .continues h hpaused hbase
  | false =>
    refine ⟨_, hm.resumes, ?_⟩
    by_cases hpaused : m.paused = false
    · rw [if_pos hpaused, if_pos hpaused]
      exact .returns h hpaused
    · rw [if_neg hpaused, if_neg hpaused, foldl_steerSource_flagMonitor]
      have hlast : ((m.events.map (·.2)).foldl (World.steerSource false) w).monitors[number]? =
          some m := by
        rw [foldl_steerSource_monitors, h]
      have hevents := forwards_events h false hm.lookup (.base false hlast (.done _))
      rw [List.append_nil] at hevents
      exact .continues h hpaused hevents

/-! ## Runs of transitions -/

/-- A transition that runs a method of its monitor to the end leaves what the method leaves. -/
theorem transition_eq {depth : Nat} {thread : String} {number : Nat} {w w' : World} {m : Monitor}
    {name : String} {method : Method} {flow : Flow} (h : w.monitors[number]? = some m)
    (hmethod : m.method name = .ok method)
    (hbody : runStmts (execute depth thread number)
      (fun body => body.run (answer (execute depth thread)) thread) number method.body w =
        (.ok flow, w')) :
    transition (execute (depth + 1) thread number) number name w = (.ok (), w') := by
  have hcall : execute (depth + 1) thread number method.body w = (.ok (), w') := by
    rw [execute, bind_of_ok hbody]
    rfl
  have hguarded : Run.guarded (m.qualifiedName ++ "::" ++ name) (do
      execute (depth + 1) thread number (← Run.ofExcept (m.method name)).body) w =
        (.ok (some ()), w') := by
    apply Run.guarded_of_ok
    rw [hmethod]
    exact hcall
  unfold transition
  rw [bind_of_ok (Run.ask_of_ok (monitor_eq_ok h)), bind_of_ok hguarded]
  rfl

/-- A transition moves a monitor and all its sources, unless it is in that state, and does nothing
else. -/
theorem transition_steers {depth : Nat} {thread : String} {number : Nat} {w : World} {m : Monitor}
    (h : w.monitors[number]? = some m) (hm : m.IsSteered) (paused : Bool) :
    transition (execute (depth + 1) thread number) number (transitionTo paused) w =
      (.ok (), w.steer number m paused) := by
  obtain ⟨method, hmethod, hforwards⟩ := hm.forwards h paused
  obtain ⟨flow, hbody⟩ := hforwards.run (execute depth thread number)
    (fun body => body.run (answer (execute depth thread)) thread)
  exact transition_eq h hmethod hbody

/-- Pausing a monitor that runs pauses it and all its sources, and nothing else. -/
theorem pauseMonitor_eq {thread : String} {number : Nat} {w : World} {m : Monitor}
    (h : w.monitors[number]? = some m) (hm : m.IsSteered) :
    pauseMonitor thread number w = (.ok (), w.steer number m true) :=
  transition_steers h hm true

/-- Resuming a paused monitor resumes it and all its sources, and nothing else. -/
theorem resumeMonitor_eq {thread : String} {number : Nat} {w : World} {m : Monitor}
    (h : w.monitors[number]? = some m) (hm : m.IsSteered) :
    resumeMonitor thread number w = (.ok (), w.steer number m false) :=
  transition_steers h hm false

/-- A transition of a monitor that is not there does nothing. -/
theorem transition_of_none {call : List Stmt → Run Unit} {number : Nat} {w : World} (name : String)
    (h : w.monitors[number]? = none) : transition call number name w =
      (.error (.fault (.unknownMember "monitor" (toString number))), w) := by
  have hask : Run.ask (·.monitor number) w =
      (.error (.fault (.unknownMember "monitor" (toString number))), w) := by
    apply Run.ask_of_error
    unfold World.monitor
    rw [h]
  unfold transition
  rw [bind_of_error hask]

/-! ## What a transition leaves -/

/-- A source with its flag set. -/
def Source.flag (paused : Bool) (s : Source) : Source := { s with paused }

/-- A monitor with its flag set. -/
def Monitor.flag (paused : Bool) (m : Monitor) : Monitor := { m with paused }

/-- Steering sets the flag of a source. -/
theorem steerSource_eq (paused : Bool) (w : World) (source : Nat) : ∃ schedule,
    w.steerSource paused source =
      { w with schedule, sources := w.sources.modify source (Source.flag paused) } := by
  unfold World.steerSource World.pauseSource World.resumeSource
  cases hs : w.sources[source]? with
  | none =>
    refine ⟨w.schedule, ?_⟩
    have hle : w.sources.length ≤ source := List.getElem?_eq_none_iff.mp hs
    rw [List.modify_eq_self hle]
    simp
  | some s =>
    rw [← set_eq_modify hs]
    cases paused with
    | true =>
      refine ⟨(s.pause w.schedule).2, ?_⟩
      have hflag : (s.pause w.schedule).1 = s.flag true := by
        unfold Source.pause Source.flag
        split
        · rename_i hpaused
          rw [← hpaused]
        · rfl
      simp only [hflag, if_true]
    | false =>
      refine ⟨(s.resume w.schedule).2, ?_⟩
      have hflag : (s.resume w.schedule).1 = s.flag false := by
        unfold Source.resume Source.flag
        split
        · rfl
        · rename_i hpaused
          rw [← Bool.eq_false_iff.mpr hpaused]
      simp only [hflag, Bool.false_eq_true, if_false]

/-- The sources with the flags set of those among some numbers. -/
def flagSources (paused : Bool) (numbers : List Nat) (sources : List Source) : List Source :=
  sources.mapIdx fun i s => if i ∈ numbers then s.flag paused else s

theorem length_flagSources (paused : Bool) (numbers : List Nat) (sources : List Source) :
    (flagSources paused numbers sources).length = sources.length := by
  unfold flagSources
  rw [List.length_mapIdx]

/-- Flags concern neither what raises a source nor who observes it. -/
theorem map_flagSources {β : Type} {f : Source → β} (hf : ∀ paused s, f (Source.flag paused s) = f s)
    (paused : Bool) (numbers : List Nat) (sources : List Source) (i : Nat) :
    (flagSources paused numbers sources)[i]?.map f = sources[i]?.map f := by
  unfold flagSources
  rw [List.getElem?_mapIdx]
  cases sources[i]? with
  | none => rfl
  | some s => by_cases hi : i ∈ numbers <;> simp [hi, hf]

theorem flagSources_nil (paused : Bool) (sources : List Source) :
    flagSources paused [] sources = sources := by
  apply List.ext_getElem?
  intro i
  simp [flagSources]

/-- Steering sources sets their flags, and those of no others. -/
theorem foldl_steerSource_eq (paused : Bool) (w : World) (numbers : List Nat) :
    ∃ schedule, numbers.foldl (World.steerSource paused) w =
      { w with schedule, sources := flagSources paused numbers w.sources } := by
  induction numbers generalizing w with
  | nil => exact ⟨w.schedule, by rw [flagSources_nil]; rfl⟩
  | cons number rest ih =>
    obtain ⟨schedule, hfirst⟩ := steerSource_eq paused w number
    obtain ⟨schedule', hrest⟩ := ih (w.steerSource paused number)
    refine ⟨schedule', ?_⟩
    have hflags : flagSources paused rest (w.sources.modify number (Source.flag paused)) =
        flagSources paused (number :: rest) w.sources := by
      apply List.ext_getElem?
      intro i
      simp only [flagSources, List.getElem?_mapIdx, List.getElem?_modify]
      cases w.sources[i]? with
      | none => rfl
      | some s =>
        by_cases hi : number = i
        · subst hi
          by_cases hmem : number ∈ rest
          · simp [hmem, Source.flag]
          · simp [hmem]
        · have hne : i ≠ number := fun heq => hi heq.symm
          simp [hi, hne]
    rw [List.foldl_cons, hrest, hfirst]
    simp only [hflags]

/-- A transition sets the flags of its monitor and of its sources, and does nothing else. -/
theorem steer_eq {w : World} {number : Nat} {m : Monitor} (h : w.monitors[number]? = some m)
    (paused : Bool) : ∃ schedule, w.steer number m paused = { w with
      schedule
      monitors := w.monitors.modify number (Monitor.flag paused)
      sources := flagSources paused (if m.paused = paused then [] else m.events.map (·.2))
        w.sources } := by
  unfold World.steer
  rw [← set_eq_modify h]
  by_cases hpaused : m.paused = paused
  · refine ⟨w.schedule, ?_⟩
    have hset : w.monitors.set number (m.flag paused) = w.monitors := by
      rw [← hpaused]
      exact set_of_getElem? h
    rw [if_pos hpaused, if_pos hpaused, hset, flagSources_nil]
  · rw [if_neg hpaused, if_neg hpaused]
    exact foldl_steerSource_eq paused (w.flagMonitor number m paused) (m.events.map (·.2))

end Watchtower.Live
