-- Steered monitors. A monitor that is moved by its own methods goes hand in hand with a plain one
-- that is given the same sources. Where it is moved by transitions alone, its sources stay in its
-- state, and each of them is called once for each transition that changes the state.
import Watchtower.Proofs.Live.Orderly

namespace Watchtower.Live

/-! ## Controls -/

/-- A call that pauses or resumes a monitor, or one of its sources directly. -/
inductive Control where
  | monitor (paused : Bool)
  | source (number : Nat) (paused : Bool)

namespace Control

/-- Runs a control. The monitor is moved by its own methods. -/
def run (thread : String) (number : Nat) : Control → Run Unit
  | .monitor true => pauseMonitor thread number
  | .monitor false => resumeMonitor thread number
  | .source target paused => modify (·.steerSource paused target)

/-- The same control of a plain monitor that is given sources. -/
def apply (sources : List Nat) (state : Core × World) : Control → Core × World
  | .monitor true => (state.1.pause state.2 sources).2
  | .monitor false => (state.1.resume state.2 sources).2
  | .source target paused => (state.1, state.2.steerSource paused target)

theorem run_monitor (thread : String) (number : Nat) (paused : Bool) :
    run thread number (.monitor paused) =
      transition (execute callDepth thread number) number (transitionTo paused) := by
  cases paused <;> rfl

/-- A plain monitor moves its sources, unless it is in that state. -/
theorem apply_monitor (sources : List Nat) (core : Core) (w : World) (paused : Bool) :
    apply sources (core, w) (.monitor paused) = ({ core with paused },
      if core.paused = paused then w else sources.foldl (World.steerSource paused) w) := by
  obtain ⟨name, flag⟩ := core
  cases paused <;> cases flag <;> rfl

/-- A control of a plain monitor does nothing to the monitors and the failures of the world. -/
theorem apply_leaves (sources : List Nat) (state : Core × World) (control : Control) :
    (apply sources state control).2.monitors = state.2.monitors ∧
      (apply sources state control).2.failures = state.2.failures := by
  obtain ⟨core, w⟩ := state
  cases control with
  | monitor paused =>
    obtain ⟨schedule, heq⟩ := foldl_steerSource_eq paused w sources
    rw [apply_monitor, heq]
    simp only []
    split <;> exact ⟨rfl, rfl⟩
  | source target paused =>
    obtain ⟨schedule, heq⟩ := steerSource_eq paused w target
    show (w.steerSource paused target).monitors = _ ∧ (w.steerSource paused target).failures = _
    rw [heq]
    exact ⟨rfl, rfl⟩

theorem foldl_apply_leaves (sources : List Nat) (state : Core × World) (controls : List Control) :
    (controls.foldl (apply sources) state).2.monitors = state.2.monitors ∧
      (controls.foldl (apply sources) state).2.failures = state.2.failures := by
  induction controls generalizing state with
  | nil => exact ⟨rfl, rfl⟩
  | cons control rest ih =>
    obtain ⟨hmonitors, hfailures⟩ := apply_leaves sources state control
    obtain ⟨hmonitors', hfailures'⟩ := ih (apply sources state control)
    exact ⟨hmonitors'.trans hmonitors, hfailures'.trans hfailures⟩

/-! ## Hand in hand -/

section

variable {number : Nat} {m : Monitor} (thread : String)

theorem flagMonitor_self {w : World} (h : w.monitors[number]? = some m) :
    w.flagMonitor number m m.paused = w := by
  unfold World.flagMonitor
  rw [set_of_getElem? h]

/-- A step: where the world is that of a plain monitor, but for the flag, it still is after a
control of both. -/
theorem run_flagMonitor {w : World} (h : w.monitors[number]? = some m) (hm : m.IsSteered)
    (core : Core) (control : Control) :
    control.run thread number (w.flagMonitor number m core.paused) =
      (.ok (), (control.apply (m.events.map (·.2)) (core, w)).2.flagMonitor number m
        (control.apply (m.events.map (·.2)) (core, w)).1.paused) := by
  cases control with
  | source target paused =>
    show (_, (w.flagMonitor number m core.paused).steerSource paused target) = _
    rw [World.steerSource_flagMonitor]
    rfl
  | monitor paused =>
    have hlt : number < w.monitors.length := (List.getElem?_eq_some_iff.mp h).1
    have hflagged : (w.flagMonitor number m core.paused).monitors[number]? =
        some { m with paused := core.paused } := by
      simp [World.flagMonitor, hlt]
    have hagain : (w.flagMonitor number m core.paused).flagMonitor number
        { m with paused := core.paused } paused = w.flagMonitor number m paused := by
      simp [World.flagMonitor]
    rw [run_monitor, apply_monitor]
    refine (transition_steers hflagged (hm.congr rfl rfl) paused).trans ?_
    unfold World.steer
    rw [hagain]
    by_cases hsame : core.paused = paused
    · simp only [hsame, if_true]
    · simp only [hsame, if_false, foldl_steerSource_flagMonitor]

/-- Controls of a monitor leave what they leave of a plain one, and the monitor with its flag. -/
theorem forM_run_eq {w : World} (h : w.monitors[number]? = some m) (hm : m.IsSteered)
    (controls : List Control) (core : Core) (hcore : core.paused = m.paused) :
    controls.forM (run thread number) w =
      (.ok (), (controls.foldl (apply (m.events.map (·.2))) (core, w)).2.flagMonitor number m
        (controls.foldl (apply (m.events.map (·.2))) (core, w)).1.paused) := by
  have hrun : ∀ (controls : List Control) (core : Core) (w : World),
      w.monitors[number]? = some m →
      controls.forM (run thread number) (w.flagMonitor number m core.paused) =
        (.ok (), (controls.foldl (apply (m.events.map (·.2))) (core, w)).2.flagMonitor number m
          (controls.foldl (apply (m.events.map (·.2))) (core, w)).1.paused) := by
    intro controls
    induction controls with
    | nil => exact fun core w _ => rfl
    | cons control rest ih =>
      intro core w hw
      rw [forM_cons_of_ok (run_flagMonitor thread hw hm core control), List.foldl_cons]
      apply ih
      rw [(apply_leaves _ (core, w) control).1]
      exact hw
  have hself : w.flagMonitor number m core.paused = w := by
    rw [hcore, flagMonitor_self h]
  rw [← hrun controls core w h, hself]

end

end Control

/-! ## Transitions alone -/

/-- Transitions of a monitor one after the other, and the calls that all of them forward. -/
inductive Transits (number : Nat) : List Bool → World → List (Nat × Bool) → World → Prop where
  | nil (w : World) : Transits number [] w [] w
  | cons {paused : Bool} {rest : List Bool} {m : Monitor} {method : Method} {w w₁ w₂ : World}
      {calls calls' : List (Nat × Bool)} (hm : w.monitors[number]? = some m)
      (hmethod : m.method (transitionTo paused) = .ok method)
      (hfirst : Forwards number method.body w calls w₁)
      (hrest : Transits number rest w₁ calls' w₂) :
      Transits number (paused :: rest) w (calls ++ calls') w₂

/-- Such transitions are what runs when the monitor is moved. -/
theorem Transits.run {number : Nat} {states : List Bool} {w w' : World} {calls : List (Nat × Bool)}
    (h : Transits number states w calls w') (thread : String) :
    (states.map Control.monitor).forM (Control.run thread number) w = (.ok (), w') := by
  induction h with
  | nil w => rfl
  | @cons paused rest m method w w₁ w₂ calls calls' hm hmethod hfirst hrest ih =>
    obtain ⟨flow, hbody⟩ := hfirst.run (execute 63 thread number)
      (fun body => body.run (answer (execute 63 thread)) thread)
    have hstep : Control.run thread number (.monitor paused) w = (.ok (), w₁) := by
      rw [Control.run_monitor]
      exact transition_eq hm hmethod hbody
    rw [List.map_cons, forM_cons_of_ok hstep]
    exact ih

/-- The transitions that change the state, from a state on. -/
def effective (paused : Bool) : List Bool → List Bool
  | [] => []
  | state :: rest =>
    if state = paused then effective paused rest else state :: effective state rest

/-- Of what a transition forwards, one call is for each source, unless it forwards nothing. -/
theorem forwarded_to {m : Monitor} (hnodup : (m.events.map (·.2)).Nodup) {event : String × Nat}
    (hevent : event ∈ m.events) (paused : Bool) :
    ((m.forwarded paused).filter (·.1 = event.2)).map (·.2) =
      if m.paused = paused then [] else [paused] := by
  have hcount : (m.events.map (·.2)).count event.2 = 1 := by
    rw [hnodup.count, if_pos (List.mem_map_of_mem hevent)]
  unfold Monitor.forwarded
  split
  · rfl
  · rw [List.filter_map, List.map_map]
    show ((m.events.map (·.2)).filter fun source => decide (source = event.2)).map _ = _
    rw [List.filter_eq, hcount]
    rfl

/-- A monitor is moved by transitions alone. They end well and record nothing, its sources stay in
its state, and each is called once for each transition that changes the state, in their order. -/
theorem transits_of_isSteered {number : Nat} {w : World} {m : Monitor}
    (h : w.monitors[number]? = some m) (hm : m.IsSteered) (hnodup : (m.events.map (·.2)).Nodup)
    (states : List Bool) : ∃ calls w', Transits number states w calls w' ∧ w.Follows w' ∧
      (w.InStep number → w'.InStep number) ∧ ∀ event ∈ m.events,
        (calls.filter (·.1 = event.2)).map (·.2) = effective m.paused states := by
  induction states generalizing w m with
  | nil => exact ⟨[], w, .nil w, .refl w, fun hstep => hstep, fun _ _ => rfl⟩
  | cons paused rest ih =>
    obtain ⟨method, hmethod, hforwards⟩ := hm.forwards h paused
    have hmoved : (w.steer number m paused).monitors[number]? = some (m.flag paused) := by
      obtain ⟨schedule, heq⟩ := steer_eq h paused
      rw [heq]
      simp [h]
    obtain ⟨calls, w', htransits, hfollows, hstep, hcalls⟩ :=
      ih hmoved (hm.congr rfl rfl) hnodup
    refine ⟨m.forwarded paused ++ calls, w', .cons h hmethod hforwards htransits,
      (World.follows_steer h paused).trans hfollows, fun hin => hstep (hin.steer_self h paused), ?_⟩
    intro event hevent
    rw [List.filter_append, List.map_append, forwarded_to hnodup hevent, hcalls event hevent]
    show _ ++ effective paused rest = effective m.paused (paused :: rest)
    rw [effective]
    by_cases hsame : m.paused = paused
    · subst hsame
      simp
    · have hne : paused ≠ m.paused := fun heq => hsame heq.symm
      simp [hsame, hne]

end Watchtower.Live
