-- Linked monitors are moved by the methods that were lowered for them, and moved as a plain monitor
-- with the same sources: the flags, the jobs and the failures are the same. So long as nobody moves
-- the sources directly they are in the state of the monitor.
import Watchtower.Proofs.Linking.Construction
import Watchtower.Proofs.Live.Steering

namespace Watchtower.Linking

open Live

section Monitors

variable {package : Option String} {index : SpaceIndex} {decl : Source.Monitor} {b : Blueprint}

/-- A guard that lets a run end well has recorded its fault, if there was one. -/
theorem concluded_eq_ok {site : String} {outcome : Except Halt Unit} {w w' : World}
    (h : concluded site outcome w = (.ok (), w')) : w' = w ∨ ∃ fault, w' = w.record site fault := by
  unfold concluded at h
  split at h
  · cases h
    exact .inl rfl
  · cases h
    exact .inr ⟨_, rfl⟩
  · cases h

/-- A linked monitor is steered by its methods. Its events have sources of their own, one for each,
which are in its state, and the world stays orderly. -/
theorem linkMonitor_isSteered (hlower : Blueprint.ofMonitor package index decl = .ok b)
    (hcheck : Members.checkMonitor index decl = .ok ()) {bindings : Bindings} {w w' : World}
    (hw : w.IsOrderly) {number : Nat} (hlink : linkMonitor bindings b w = (.ok number, w')) :
    w'.IsOrderly ∧ w'.InStep number ∧ ∃ m, w'.monitors[number]? = some m ∧ m.IsSteered ∧
      m.qualifiedName = Source.qualify package decl.name ∧
      m.events.map (·.1) = decl.body.filterMap eventName? ∧ (m.events.map (·.2)).Nodup := by
  obtain ⟨rfl, members, w₁, hfields, hrun⟩ := linkMonitor_eq_ok hlink
  have hstarts := starts_of_fields hlower hcheck hw hfields
  obtain ⟨outcome, w₂, hconstructs, hconcluded⟩ := hstarts.constructs hlower
  obtain ⟨proxies, hfollows, hstep⟩ := hconstructs.follows hstarts.orderly hstarts.monitor
  have horderly := (hstarts.orderly.bindAt hstarts.monitor proxies).follows hfollows
  have hinStep := hstep hstarts.apart hstarts.inStep
  obtain ⟨m, hm, hfixed⟩ := hfollows.monitor (World.monitor_bindAt hstarts.monitor proxies)
  have hsame := Monitor.eq_of_fixed hfixed
  have hmonitor : m.IsSteered ∧ m.qualifiedName = Source.qualify package decl.name ∧
      m.events.map (·.1) = decl.body.filterMap eventName? ∧ (m.events.map (·.2)).Nodup := by
    refine ⟨(horderly m (List.mem_of_getElem? hm)).1, ?_, ?_, ?_⟩
    · rw [hsame]
      exact hstarts.name
    · rw [hsame]
      exact hstarts.events
    · rw [hsame]
      exact hstarts.sources
  -- A recorded fault changes neither the monitors nor the sources.
  rcases concluded_eq_ok (hconcluded.symm.trans hrun) with rfl | ⟨fault, rfl⟩
  · exact ⟨horderly, hinStep, m, hm, hmonitor⟩
  · exact ⟨horderly, hinStep, m, hm, hmonitor⟩

/-- A world stays orderly while checked monitors are linked in it one after the other. -/
theorem linkMonitors_isOrderly {bindings : Bindings} {blueprints : List Blueprint}
    (haccepted : ∀ b ∈ blueprints, b.kind = .monitor → ∃ package index decl,
      Report.outcome true package index (.monitor decl) = .ok b) {w w' : World} {numbers : List Nat}
    (hw : w.IsOrderly) (hlink : linkMonitors bindings blueprints w = (.ok numbers, w')) :
    w'.IsOrderly := by
  induction blueprints generalizing w numbers with
  | nil =>
    cases hlink
    exact hw
  | cons b rest ih =>
    have hrest : ∀ other ∈ rest, other.kind = .monitor → ∃ package index decl,
        Report.outcome true package index (.monitor decl) = .ok other :=
      fun other hother => haccepted other (List.mem_cons_of_mem _ hother)
    by_cases hkind : b.kind = .monitor
    · obtain ⟨package, index, decl, hb⟩ := haccepted b List.mem_cons_self hkind
      obtain ⟨hcheck, hlower⟩ := outcome_eq_ok.mp hb
      obtain ⟨number, others, w₁, hfirst, hothers, rfl⟩ := linkMonitors_cons_eq_ok hkind hlink
      exact ih hrest (linkMonitor_isSteered hlower hcheck hw hfirst).1 hothers
    · rw [linkMonitors_cons_of_other hkind] at hlink
      exact ih hrest hw hlink

/-! ## The law -/

/-- A checked monitor is linked in an orderly world. From then on, on whatever thread and in
whatever world, calls that pause or resume it and its sources leave what they leave of a plain
monitor that is given its sources, and no failure is recorded. Where just the monitor is called,
its sources stay in its state, and each of them is called once for each transition that changes
the state. -/
theorem a_linked_monitor_moves_as_a_plain_one
    (haccepted : Report.outcome true package index (.monitor decl) = .ok b) {bindings : Bindings}
    {w w' : World} (hw : w.IsOrderly) {number : Nat}
    (hlink : linkMonitor bindings b w = (.ok number, w')) :
    w'.IsOrderly ∧ w'.InStep number ∧ ∃ m, w'.monitors[number]? = some m ∧
      m.events.map (·.1) = decl.body.filterMap eventName? ∧ (m.events.map (·.2)).Nodup ∧
      ∀ w₁ m₁ thread, w₁.monitors[number]? = some m₁ → m₁.methods = m.methods →
        m₁.events = m.events →
        (∀ controls : List Control, ∃ core w₂,
          controls.foldl (Control.apply (m.events.map (·.2)))
            (⟨Source.qualify package decl.name, m₁.paused⟩, w₁) = (core, w₂) ∧
          controls.forM (Control.run thread number) w₁ =
            (.ok (), w₂.flagMonitor number m₁ core.paused) ∧
          w₂.monitors = w₁.monitors ∧ w₂.failures = w₁.failures) ∧
        ∀ states : List Bool, ∃ calls w₂, Transits number states w₁ calls w₂ ∧
          (states.map Control.monitor).forM (Control.run thread number) w₁ = (.ok (), w₂) ∧
          w₂.failures = w₁.failures ∧ (w₁.InStep number → w₂.InStep number) ∧
          ∀ event ∈ m.events,
            (calls.filter (·.1 = event.2)).map (·.2) = effective m₁.paused states := by
  obtain ⟨hcheck, hlower⟩ := outcome_eq_ok.mp haccepted
  obtain ⟨horderly, hinStep, m, hm, hsteered, -, hnames, hnodup⟩ :=
    linkMonitor_isSteered hlower hcheck hw hlink
  refine ⟨horderly, hinStep, m, hm, hnames, hnodup, ?_⟩
  intro w₁ m₁ thread hm₁ hmethods hevents
  have hsteered₁ := hsteered.congr hmethods hevents
  rw [← hevents] at hnodup ⊢
  refine ⟨fun controls => ?_, fun states => ?_⟩
  · have hrun := Control.forM_run_eq thread hm₁ hsteered₁ controls
      ⟨Source.qualify package decl.name, m₁.paused⟩ rfl
    exact ⟨_, _, rfl, hrun, Control.foldl_apply_leaves _ _ controls⟩
  · obtain ⟨calls, w₂, htransits, hfollows, hstays, hcalls⟩ :=
      transits_of_isSteered hm₁ hsteered₁ hnodup states
    exact ⟨calls, w₂, htransits, htransits.run thread, hfollows.failures, hstays, hcalls⟩

end Monitors

/-- A monitor is paused twice, one of its sources resumed in between, and then it is resumed. -/
def mixedControls : List Control :=
  [.monitor true, .source 1 false, .monitor true, .monitor false]

theorem a_monitor_of_calls_moves_as_a_plain_one :
    ∃ b w' m, Report.outcome true (some "demo") {} (.monitor callMonitor) = .ok b ∧
      linkMonitor {} b {} = (.ok 0, w') ∧ w'.monitors[0]? = some m ∧
      (∃ core w₂, mixedControls.foldl (Control.apply (m.events.map (·.2)))
          (⟨"demo.Perf", false⟩, w') = (core, w₂) ∧
        mixedControls.forM (Control.run "" 0) w' = (.ok (), w₂.flagMonitor 0 m core.paused) ∧
        w₂.failures = w'.failures) ∧
      ∃ calls w₂, Transits 0 [true, true, false] w' calls w₂ ∧ w₂.InStep 0 ∧
        ∀ event ∈ m.events, (calls.filter (·.1 = event.2)).map (·.2) = [true, false] := by
  have hlinked : (linkAlone callMonitor {}).1.toOption = some 0 := by decide +kernel
  obtain ⟨b, hb, hlink⟩ := linkAlone_eq_ok hlinked
  have hw : ({} : World).IsOrderly := by
    intro m hm
    cases hm
  obtain ⟨-, hinStep, m, hm, -, -, hmoves⟩ := a_linked_monitor_moves_as_a_plain_one hb hw hlink
  have hrunning : m.paused = false := by
    have hflag : (linkAlone callMonitor {}).2.monitors[0]?.map (·.paused) = some false := by
      decide +kernel
    rw [hm] at hflag
    exact Option.some.inj hflag
  have hname : Source.qualify (some "demo") callMonitor.name = "demo.Perf" := by decide +kernel
  obtain ⟨hmixed, halone⟩ := hmoves _ m "" hm rfl rfl
  rw [hrunning, hname] at hmixed
  rw [hrunning] at halone
  obtain ⟨core, w₂, hplain, hrun, -, hfailures⟩ := hmixed mixedControls
  obtain ⟨calls, w₃, htransits, -, -, hstays, hcalls⟩ := halone [true, true, false]
  exact ⟨b, _, m, hb, hlink, hm, ⟨core, w₂, hplain, hrun, hfailures⟩,
    calls, w₃, htransits, hstays hinStep, hcalls⟩

end Watchtower.Linking
