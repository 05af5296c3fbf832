-- Subscriptions to probes. A monitor that is linked where nobody listens yet opens a probe for each
-- of its probe events, and binds a queue to the routing key of the probe. A handler that is
-- subscribed to such an event attends to the probe, so long as the consumer of the queue runs.
import Watchtower.Proofs.Linking.Changes
import Watchtower.Proofs.Linking.Steering
import Watchtower.Proofs.Live.Signals

namespace Watchtower

open Source (MonitorItem)
open Text (Undotted)

namespace Live

/-! ## Probes -/

/-- Starting an open probe leaves the others as they are. -/
theorem Probes.isRunning_setRunning (p : Probes) (routingKey other : String) :
    (p.setRunning routingKey true).isRunning? other =
      if other = routingKey then (p.isRunning? other).map fun _ => true
      else p.isRunning? other := by
  unfold Probes.setRunning
  cases hopen : p.isRunning? routingKey with
  | none =>
    split
    · rename_i hsome
      cases hsome
    · split
      · rename_i hsame
        rw [hsame, hopen]
        rfl
      · rfl
  | some running =>
    simp only [Option.isSome_some, if_true]
    unfold Probes.isRunning? at hopen ⊢
    by_cases hsame : other = routingKey
    · subst hsame
      simp [Sorted.lookup_insert_self, hopen]
    · simp [Sorted.lookup_insert_of_ne _ _ hsame, hsame]

/-- An opened probe is there, and the others are as they were. -/
theorem Probes.isRunning_open {p p' : Probes} {routingKey : String}
    (h : p.open_ routingKey = .ok p') :
    (p'.isRunning? routingKey).isSome ∧
      ∀ other ≠ routingKey, p'.isRunning? other = p.isRunning? other := by
  unfold Probes.open_ at h
  split at h
  · cases h
  · split at h
    · rename_i hopen
      cases h
      exact ⟨by simp [hopen], fun _ _ => rfl⟩
    · cases h
      refine ⟨?_, fun other hne => Sorted.lookup_insert_of_ne _ _ hne⟩
      unfold Probes.isRunning?
      rw [Sorted.lookup_insert_self]
      rfl

/-- The probe of an event runs once it is opened, and those that run go on. -/
theorem World.isRunning_openProbe (w : World) (source : Nat) (routingKey other : String) :
    (w.openProbe source routingKey).2.probes.isRunning? other =
      if other = routingKey ∧ routingKey ≠ "" then some true else w.probes.isRunning? other := by
  unfold World.openProbe
  split
  · rename_i fault herror
    have hempty : routingKey = "" := by
      unfold Probes.open_ at herror
      split at herror
      · rename_i hisEmpty
        simpa using hisEmpty
      · split at herror <;> cases herror
    simp [hempty]
  · rename_i probes hok
    have hkey : routingKey ≠ "" := by
      rintro rfl
      cases hok
    obtain ⟨hthere, hothers⟩ := Probes.isRunning_open hok
    have hprobes : (probes.setRunning routingKey true).isRunning? other =
        if other = routingKey ∧ routingKey ≠ "" then some true else w.probes.isRunning? other := by
      rw [Probes.isRunning_setRunning]
      by_cases hsame : other = routingKey
      · subst hsame
        obtain ⟨running, hrunning⟩ := Option.isSome_iff_exists.mp hthere
        simp [hrunning, hkey]
      · simp [hsame, hothers other hsame]
    simp only []
    split
    · exact hprobes
    · exact hprobes

theorem World.bus_openProbe (w : World) (source : Nat) (routingKey : String) :
    (w.openProbe source routingKey).2.bus = w.bus ∧
      (w.openProbe source routingKey).2.consumers = w.consumers := by
  unfold World.openProbe
  split
  · exact ⟨rfl, rfl⟩
  · simp only []
    split <;> exact ⟨rfl, rfl⟩

end Live

namespace Linking

open Live

/-! ## Sources of probe events -/

/-- The source is raised by a probe of this routing key, which runs, through one consumer. -/
structure IsProbed (w : World) (source : Nat) (kind : EventKind) (routingKey : String) : Prop where
  trigger : ∃ text, w.sources[source]?.map (·.trigger) = some (.probe kind text)
  consumer : (w.consumers.filter (·.listensTo source)).map (·.config) = [probeConfig routingKey]
  running : w.probes.isRunning? routingKey = some true

/-- A source stays with its probe while the world grows, so long as the probe runs. -/
theorem IsProbed.grows {own : String → Prop} {w w' : World} {source : Nat} {kind : EventKind}
    {routingKey : String} (h : IsProbed w source kind routingKey) (hg : w.Grows own w')
    (hrunning : w'.probes.isRunning? routingKey = some true) :
    IsProbed w' source kind routingKey := by
  obtain ⟨text, htrigger⟩ := h.trigger
  obtain ⟨s, hs, heq⟩ := Option.map_eq_some_iff.mp htrigger
  refine ⟨⟨text, ?_⟩, ?_, hrunning⟩
  · rw [hg.kept source s hs, Option.map_some, heq]
  · rw [hg.filter_listensTo (List.getElem?_eq_some_iff.mp hs).1, h.consumer]

/-- A source stays with its probe while neither the wiring nor the consumers and probes change. -/
theorem IsProbed.keeps {w w' : World} {source : Nat} {kind : EventKind} {routingKey : String}
    (h : IsProbed w source kind routingKey) (hkeeps : w.Keeps w')
    (hconsumers : w'.consumers = w.consumers) (hprobes : w'.probes = w.probes) :
    IsProbed w' source kind routingKey := by
  obtain ⟨text, htrigger⟩ := h.trigger
  obtain ⟨s, hs, heq⟩ := Option.map_eq_some_iff.mp htrigger
  obtain ⟨s', hs', hsame⟩ := hkeeps.source hs
  simp only [Live.Source.wiring, Prod.mk.injEq] at hsame
  refine ⟨⟨text, ?_⟩, ?_, ?_⟩
  · rw [hs', Option.map_some, hsame.2.1, heq]
  · rw [hconsumers]
    exact h.consumer
  · rw [hprobes]
    exact h.running

/-- A new source whose probe was opened, or could not be, is wired as it was added, and the bus and
the consumers are as they were. -/
theorem addSource_opened {w w₁ : World} {s : Live.Source} {routingKey site : String}
    (h : w₁ = ((w.addSource s).2.openProbe w.sources.length routingKey).2 ∨
      ∃ fault, w₁ = ((w.addSource s).2.openProbe w.sources.length routingKey).2.record site fault) :
    w₁.bus = w.bus ∧ w₁.consumers = w.consumers ∧
      ∃ s₁, w₁.sources[w.sources.length]? = some s₁ ∧ s₁.wiring = s.wiring := by
  have hadded : (w.addSource s).2.sources[w.sources.length]? = some s :=
    List.getElem?_concat_length
  have hbus := (w.addSource s).2.bus_openProbe w.sources.length routingKey
  have hwiring := World.wiring_openProbe (w.addSource s).2 w.sources.length routingKey
  have hopened : w₁.wiring = (w.addSource s).2.wiring ∧ w₁.bus = w.bus ∧
      w₁.consumers = w.consumers := by
    rcases h with rfl | ⟨fault, rfl⟩
    · exact ⟨hwiring, hbus⟩
    · exact ⟨hwiring, hbus⟩
  exact ⟨hopened.2.1, hopened.2.2, (World.Keeps.of_eq hopened.1).source hadded⟩

/-- A probe that runs goes on while another event is linked. -/
theorem linkEvent_isRunning {scope : MonitorScope} {event : Source.EventDecl} {t : Blueprint}
    (h : IsTypeOf scope (.event event) t) {w w' : World} {number : Nat}
    (hlink : linkEvent t w = (.ok number, w')) {routingKey : String}
    (hrunning : w.probes.isRunning? routingKey = some true) :
    w'.probes.isRunning? routingKey = some true := by
  have hconsumed : ∀ {w₁ w₂ : World} {source : Nat} {config : ConsumerConfig} {site : String},
      w₁.probes.isRunning? routingKey = some true →
      (w₁.consume source config = .ok w₂ ∨
        ∃ fault, w₁.consume source config = .error fault ∧ w₂ = w₁.record site fault) →
      w₂.probes.isRunning? routingKey = some true := by
    intro w₁ w₂ source config site hrunning₁ hconsume
    rcases World.consume_cases hconsume with rfl | ⟨fault, rfl⟩
    · exact hrunning₁
    · exact hrunning₁
  cases h with
  | @change name emitter specifier span route _ _ predicate hroute hpredicate =>
    obtain ⟨filter, w₁, hlink', -, hconsume⟩ :=
      linkEvent_ofChange_eq emitter route w hpredicate
    cases hlink.symm.trans hlink'
    refine hconsumed ?_ hconsume
    exact hrunning
  | @probe name occurrence emitter span hoccurrence =>
    obtain ⟨w₁, w₂, hlink', hprobe, hconsume⟩ :=
      linkEvent_ofProbe_eq scope name occurrence.kind emitter w
    cases hlink.symm.trans hlink'
    refine hconsumed ?_ hconsume
    have hopened : (((w.addSource (probeSource scope name occurrence.kind emitter)).2.openProbe
        w.sources.length (scope.member name)).2.probes.isRunning? routingKey) = some true := by
      rw [World.isRunning_openProbe]
      split
      · rfl
      · exact hrunning
    rcases hprobe with rfl | ⟨fault, rfl⟩
    · exact hopened
    · exact hopened

/-! ## Fields -/

section Fields

variable {package : Option String} {index : SpaceIndex} {decl : Source.Monitor} {b : Blueprint}
  {number : Nat} {bindings : Bindings}

theorem Made.isRunning {place : MonitorPlace} {item : MonitorItem}
    {members members' : MonitorMembers} {w w' : World}
    (h : Made package index decl place item members w members' w') {routingKey : String}
    (hrunning : w.probes.isRunning? routingKey = some true) :
    w'.probes.isRunning? routingKey = some true := by
  cases h with
  | value v value => exact hrunning
  | schedule name cron span => exact hrunning
  | event event members hof hlink => exact linkEvent_isRunning hof hlink hrunning
  | handler handler members hkind hinterval hlink => exact hrunning

end Fields

/-! ## Monitors -/

section Monitors

variable {package : Option String} {index : SpaceIndex} {decl : Source.Monitor} {b : Blueprint}
  {bindings : Bindings}

/-- A world in which nobody listens yet. There may be namespaces, with what they are stored in. -/
structure IsVacant (w : World) : Prop where
  bindings : w.bus.bindings = []
  channels : w.bus.channels = []
  consumers : w.consumers = []
  sources : w.sources = []
  monitors : w.monitors = []

theorem IsVacant.isOrderly {w : World} (h : IsVacant w) : w.IsOrderly := by
  intro m hm
  rw [h.monitors] at hm
  cases hm

/-- A monitor that was linked alone: an event of it has a source with a probe, a handler of it is
an observer, and nothing but changes waits in the channels. -/
structure IsAlone (w : World) (m : Monitor) (event handler : String) (source : Nat)
    (observer : Observer) (kind : EventKind) (routingKey : String) : Prop where
  monitors : w.monitors = [m]
  steered : m.IsSteered
  held : m.dropped = false
  event : m.events.lookup event = some source
  handler : m.handlers.lookup handler = some (.observer observer)
  probed : IsProbed w source kind routingKey
  inStep : w.sources[source]?.map (·.paused) = some m.paused
  waiting : ∃ bus mail, IsChanges mail ∧ w.bus = bus.holding mail ∧ ({ w with bus } : World).IsWired

/-- A handler that is subscribed as the first attends to the probe of its event. -/
theorem IsAlone.subscribe {w : World} {m : Monitor} {event handler : String} {source : Nat}
    {observer : Observer} {kind : EventKind} {routingKey : String}
    (h : IsAlone w m event handler source observer kind routingKey)
    (hnoting : ∀ payload, (observer.react payload).IsNoting) (hbelongs : observer.owner = some 0)
    (hunobserved : ∀ s ∈ w.sources, s.observers = []) :
    ∃ w' mail, w.subscribe 0 event handler = .ok { w' with bus := w'.bus.holding mail } ∧
      IsAttending ⟨0, source, observer, probeConfig routingKey⟩ kind (!m.paused) w' ∧
      IsChanges mail ∧ w'.probes = w.probes ∧ w'.journal = w.journal := by
  obtain ⟨bus, mail, hmail, hbus, hwired⟩ := h.waiting
  obtain ⟨text, htext⟩ := h.probed.trigger
  obtain ⟨s, hs, htrigger⟩ := Option.map_eq_some_iff.mp htext
  have hfirst : w.monitors[0]? = some m := by
    rw [h.monitors]
    rfl
  have hperiodic : w.sources[source]?.map (·.isPeriodic) = some false := by
    simp [hs, Source.isPeriodic, htrigger]
  have hsubscribe := subscribe_observer hfirst h.event h.handler hperiodic
  have hheld : w.modifySource source (·.observe observer) =
      { World.modifySource { w with bus } source (·.observe observer) with
        bus := bus.holding mail } := by
    rw [← hbus]
    rfl
  have hmonitors : ∀ m' ∈ w.monitors, m' = m := by
    rw [h.monitors]
    simp
  refine ⟨World.modifySource { w with bus } source (·.observe observer), mail, ?_,
    ⟨isListening_observe hnoting hbelongs hwired h.probed.consumer ?_ hunobserved ?_ ?_ ?_,
      text, ?_⟩, hmail, rfl, rfl⟩
  · rw [hsubscribe, hheld]
    rfl
  · rw [Bool.not_not]
    exact h.inStep
  · intro m' hm'
    rw [hmonitors m' hm']
    exact ⟨h.steered, h.held⟩
  · exact ⟨m, hfirst, (Bool.not_not _).symm, List.mem_map.mpr ⟨_, mem_of_lookup h.event, rfl⟩⟩
  · intro k m' hm' _
    have hlt : k < w.monitors.length := (List.getElem?_eq_some_iff.mp hm').1
    rw [h.monitors, List.length_singleton] at hlt
    exact Nat.lt_one_iff.mp hlt
  · simp [World.modifySource, hs, Source.observe, htrigger]

end Monitors

end Linking

end Watchtower
