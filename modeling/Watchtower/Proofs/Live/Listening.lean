-- Listening to a source. Where a source has one consumer and one observer, and nobody observes the
-- other sources, the observer hears what is delivered to its source while its monitor runs, and
-- nobody hears anything else. Transitions of monitors keep it so.
import Watchtower.Proofs.Live.Growth
import Watchtower.Proofs.Outcome

namespace Watchtower.Live

/-- Who listens to a source: an observer of a monitor, through a consumer. -/
structure Listening where
  monitor : Nat
  source : Nat
  observer : Observer
  config : ConsumerConfig

/-- What listening rests on: the source hears through one consumer and has no other observer, and
its monitor alone steers it. -/
structure IsListening (l : Listening) (running : Bool) (w : World) : Prop where
  noting : ∀ payload, (l.observer.react payload).IsNoting
  belongs : l.observer.owner = some l.monitor
  wired : w.IsWired
  consumer : (w.consumers.filter (·.listensTo l.source)).map (·.config) = [l.config]
  observed : w.sources[l.source]?.map (fun s => (s.observers, s.paused)) =
    some ([l.observer], !running)
  others : ∀ (i : Nat) (s : Source), w.sources[i]? = some s → i ≠ l.source → s.observers = []
  monitors : ∀ m ∈ w.monitors, m.IsSteered ∧ m.dropped = false
  owner : ∃ m, w.monitors[l.monitor]? = some m ∧ m.paused = !running ∧
    l.source ∈ m.events.map (·.2)
  alone : ∀ (k : Nat) (m : Monitor), w.monitors[k]? = some m → l.source ∈ m.events.map (·.2) →
    k = l.monitor

section Listening

variable {l : Listening} {running : Bool} {w : World}

/-- Listening rests neither on the stores and the probes nor on the journal, nor on the count of
flushes. -/
theorem IsListening.after (h : IsListening l running w) (stores : List Store) (probes : Probes)
    (journal : List JournalEntry) (flushes : Nat) :
    IsListening l running { w with stores, probes, journal, bus := { w.bus with flushes } } :=
  ⟨h.noting, h.belongs, ⟨h.wired.bindings, h.wired.channels, h.wired.owned, h.wired.listens⟩,
    h.consumer, h.observed, h.others, h.monitors, h.owner, h.alone⟩

theorem IsListening.source (h : IsListening l running w) :
    ∃ s, w.sources[l.source]? = some s ∧ s.observers = [l.observer] ∧ s.paused = !running := by
  obtain ⟨s, hs, hobserved⟩ := Option.map_eq_some_iff.mp h.observed
  exact ⟨s, hs, congrArg Prod.fst hobserved, congrArg Prod.snd hobserved⟩

theorem IsListening.isNoting (h : IsListening l running w) : w.IsNoting := by
  intro s hs o ho payload
  obtain ⟨i, hi⟩ := List.getElem?_of_mem hs
  by_cases hsource : i = l.source
  · subst hsource
    obtain ⟨s', hs', hobservers, -⟩ := h.source
    cases hi.symm.trans hs'
    rw [hobservers, List.mem_singleton] at ho
    rw [ho]
    exact h.noting payload
  · rw [h.others i s hi hsource] at ho
    cases ho

/-! ## Hearing -/

/-- Only the source that is listened to has somebody to notify. -/
theorem IsListening.heardAt_of_ne (h : IsListening l running w) (thread : String)
    (payload : Payload) {number : Nat} (hne : number ≠ l.source) :
    w.heardAt thread payload number = [] := by
  unfold World.heardAt
  cases hs : w.sources[number]? with
  | none => rfl
  | some s => simp [h.others number s hs hne]

/-- While its monitor runs, the observer notes the payloads of its kind that its source accepts. -/
theorem IsListening.heardAt_source (h : IsListening l running w) {s : Source}
    (hs : w.sources[l.source]? = some s) (thread : String) (payload : Payload) :
    w.heardAt thread payload l.source =
      if running ∧ s.accepts payload ∧ payload.kind = l.observer.kind then
        (l.observer.react payload).entries thread
      else [] := by
  obtain ⟨m, hm, -, -⟩ := h.owner
  obtain ⟨s', hs', hobservers, hpaused⟩ := h.source
  cases hs.symm.trans hs'
  have halive : w.isAlive l.observer.owner = true := by
    have hheld := (h.monitors m (List.mem_of_getElem? hm)).2
    simp [World.isAlive, h.belongs, hm, hheld]
  unfold World.heardAt World.heardBy
  simp only [hs, hobservers, hpaused, Bool.not_not, List.flatMap_cons, List.flatMap_nil,
    List.append_nil, halive, and_true]
  cases running with
  | false => simp
  | true =>
    by_cases haccepts : s.accepts payload = true
    · simp [haccepts]
    · simp [haccepts]

/-- Nothing is heard through the consumers of other sources, which nobody observes. -/
theorem IsListening.heard_of_other (h : IsListening l running w) {other : Consumer}
    (hother : other ∈ w.consumers) (hnot : other.listensTo l.source = false) (payload : Payload) :
    w.heard payload other = [] := by
  obtain ⟨number, -, hlistener⟩ := h.wired.listens other hother
  have hne : number ≠ l.source := by
    intro heq
    simp [Consumer.listensTo, hlistener, heq] at hnot
  unfold World.heard
  rw [hlistener]
  exact h.heardAt_of_ne _ _ hne

/-- Through a consumer of a source is heard what the source is handed. -/
theorem heard_of_listensTo {c : Consumer} {number : Nat} (hlistens : c.listensTo number = true)
    (payload : Payload) : w.heard payload c = w.heardAt c.config.queue payload number := by
  unfold Consumer.listensTo at hlistens
  unfold World.heard
  split at hlistens
  · rename_i source hlistener
    rw [hlistener, eq_of_beq hlistens]
  · cases hlistens

/-- Consumers through which nothing is heard can be left out. -/
theorem flatMap_filter_of_silent {listens bound : Consumer → Bool}
    {heard : Consumer → List JournalEntry} {consumers : List Consumer}
    (hsilent : ∀ c ∈ consumers, listens c = false → heard c = []) :
    (consumers.filter bound).flatMap heard =
      ((consumers.filter listens).filter bound).flatMap heard := by
  rw [List.filter_filter, flatMap_filter, flatMap_filter, List.flatMap_def, List.flatMap_def]
  congr 1
  apply List.map_congr_left
  intro c hc
  by_cases hlistens : listens c = true
  · simp [hlistens]
  · simp [hlistens, hsilent c hc (Bool.eq_false_iff.mpr hlistens)]

/-- Of payloads that are published on a pair, only the consumer of the source hears something. -/
theorem IsListening.heard (h : IsListening l running w) (exchange routingKey : String)
    (payloads : List Payload) :
    (w.consumers.filter (·.isBoundTo exchange routingKey)).flatMap
        (fun c => payloads.flatMap (w.heard · c)) =
      if l.config.exchange = exchange ∧ l.config.routingKey = routingKey then
        payloads.flatMap (w.heardAt l.config.queue · l.source)
      else [] := by
  obtain ⟨c, hc, hconfig⟩ := List.map_eq_singleton_iff.mp h.consumer
  have hlistens : c.listensTo l.source = true := by
    have hmem : c ∈ w.consumers.filter (·.listensTo l.source) := by
      rw [hc]
      exact List.mem_singleton.mpr rfl
    exact (List.mem_filter.mp hmem).2
  have hsilent : ∀ other ∈ w.consumers, other.listensTo l.source = false →
      payloads.flatMap (w.heard · other) = [] :=
    fun other hother hnot => List.flatMap_eq_nil_iff.mpr fun payload _ =>
      h.heard_of_other hother hnot payload
  have hbound : c.isBoundTo exchange routingKey =
      decide (l.config.exchange = exchange ∧ l.config.routingKey = routingKey) := by
    unfold Consumer.isBoundTo
    rw [hconfig, Bool.decide_and]
    rfl
  rw [flatMap_filter_of_silent hsilent, hc, List.filter_cons, List.filter_nil, hbound]
  by_cases hpair : l.config.exchange = exchange ∧ l.config.routingKey = routingKey
  · simp [hpair, heard_of_listensTo hlistens, hconfig]
  · simp [hpair]

/-- Payloads are published on a pair, behind others that nobody hears. After a flush the journal
has what the source lets its observer note of them, if they were for its consumer. -/
theorem IsListening.flush_publishAll (h : IsListening l running w) (mail : Nat → List Envelope)
    (hmail : ∀ i, .shutdown ∉ mail i)
    (hunheard : ∀ i, ∀ c ∈ w.consumers, w.heardIn c (mail i) = [])
    (exchange routingKey : String) (payloads : List Payload) :
    ({ w with bus := (w.bus.holding mail).publishAll exchange routingKey payloads }).flush =
      { w with
        journal := w.journal ++
          if l.config.exchange = exchange ∧ l.config.routingKey = routingKey then
            payloads.flatMap (w.heardAt l.config.queue · l.source)
          else []
        bus := { w.bus with flushes := w.bus.flushes + 1 } } := by
  rw [World.flush_publishAll h.wired h.isNoting mail hmail hunheard, h.heard]
  rfl

/-! ## Transitions -/

/-- The flag of the source follows that of its monitor. -/
theorem IsListening.flag_source (h : IsListening l running w) {number : Nat} {m : Monitor}
    (hm : w.monitors[number]? = some m) (paused : Bool) :
    (flagSources paused (if m.paused = paused then [] else m.events.map (·.2))
        w.sources)[l.source]?.map (fun s => (s.observers, s.paused)) =
      some ([l.observer], !(if number = l.monitor then !paused else running)) := by
  obtain ⟨owner, howner, hflag, hsource⟩ := h.owner
  obtain ⟨s, hs, hobservers, hpaused⟩ := h.source
  unfold flagSources
  rw [List.getElem?_mapIdx, hs]
  by_cases hnumber : number = l.monitor
  · subst hnumber
    rw [howner] at hm
    cases hm
    by_cases hstays : m.paused = paused
    · have hsame : (!running) = paused := hflag ▸ hstays
      simp [hstays, hobservers, hpaused, hsame]
    · simp [hstays, hsource, Source.flag, hobservers]
  · have hnot : l.source ∉ (if m.paused = paused then [] else m.events.map (·.2)) := by
      split
      · simp
      · exact fun hin => hnumber (h.alone number m hm hin)
    simp [hnot, hnumber, hobservers, hpaused]

/-- A monitor after a transition of one of them is one that was there, with the flag set if it is
that one. -/
theorem getElem?_modify_flag {number k : Nat} {paused : Bool} {m : Monitor}
    (hm : (w.monitors.modify number (Monitor.flag paused))[k]? = some m) :
    ∃ old, w.monitors[k]? = some old ∧ m = if number = k then old.flag paused else old := by
  rw [List.getElem?_modify] at hm
  obtain ⟨old, hold, heq⟩ := Option.map_eq_some_iff.mp hm
  exact ⟨old, hold, heq.symm⟩

theorem events_flag_ite (m : Monitor) (paused : Bool) (number k : Nat) :
    (if number = k then m.flag paused else m).events = m.events := by
  split <;> rfl

/-- A transition of a monitor reaches the source just where it is the monitor of the observer. -/
theorem IsListening.steer (h : IsListening l running w) {number : Nat} {m : Monitor}
    (hm : w.monitors[number]? = some m) (paused : Bool) (schedule : Schedule) :
    IsListening l (if number = l.monitor then !paused else running) { w with
      schedule
      monitors := w.monitors.modify number (Monitor.flag paused)
      sources := flagSources paused (if m.paused = paused then [] else m.events.map (·.2))
        w.sources } where
  noting := h.noting
  belongs := h.belongs
  wired := h.wired.congr rfl rfl (length_flagSources _ _ _)
  consumer := h.consumer
  observed := h.flag_source hm paused
  others := by
    intro i s hs hne
    have hobservers := map_flagSources (f := Source.observers) (fun _ _ => rfl) paused
      (if m.paused = paused then [] else m.events.map (·.2)) w.sources i
    have hs' : (flagSources _ _ w.sources)[i]? = some s := hs
    rw [hs'] at hobservers
    obtain ⟨old, hold, heq⟩ := Option.map_eq_some_iff.mp hobservers.symm
    rw [← heq]
    exact h.others i old hold hne
  monitors := by
    intro m' hm'
    obtain ⟨k, hk⟩ := List.getElem?_of_mem hm'
    obtain ⟨old, hold, rfl⟩ := getElem?_modify_flag hk
    obtain ⟨hsteered, hheld⟩ := h.monitors old (List.mem_of_getElem? hold)
    split
    · exact ⟨⟨hsteered.pauses, hsteered.resumes, hsteered.names⟩, hheld⟩
    · exact ⟨hsteered, hheld⟩
  owner := by
    obtain ⟨owner, howner, hflag, hsource⟩ := h.owner
    refine ⟨if number = l.monitor then owner.flag paused else owner, ?_, ?_, ?_⟩
    · show (w.monitors.modify number (Monitor.flag paused))[l.monitor]? = _
      rw [List.getElem?_modify, howner]
      rfl
    · split
      · simp [Monitor.flag]
      · exact hflag
    · rw [events_flag_ite]
      exact hsource
  alone := by
    intro k m' hm' hin
    obtain ⟨old, hold, rfl⟩ := getElem?_modify_flag hm'
    rw [events_flag_ite] at hin
    exact h.alone k old hold hin

/-- Pausing or resuming a monitor, one that is there or not, on whatever bus. -/
theorem IsListening.transition (h : IsListening l running w) (bus : Bus) (thread : String)
    (number : Nat) (paused : Bool) :
    ∃ w', (transition (execute callDepth thread number) number (transitionTo paused)
        { w with bus }).2 = { w' with bus } ∧
      IsListening l (if number = l.monitor then !paused else running) w' ∧
      (∃ schedule monitors sources, w' = { w with schedule, monitors, sources }) ∧
      w'.sources.map (·.trigger) = w.sources.map (·.trigger) := by
  cases hm : w.monitors[number]? with
  | none =>
    obtain ⟨owner, howner, -, -⟩ := h.owner
    have hne : number ≠ l.monitor := by
      intro heq
      rw [heq, howner] at hm
      cases hm
    refine ⟨w, ?_, by rwa [if_neg hne], ⟨_, _, _, rfl⟩, rfl⟩
    exact congrArg Prod.snd (transition_of_none (w := { w with bus }) _ hm)
  | some m =>
    have hsteered := (h.monitors m (List.mem_of_getElem? hm)).1
    obtain ⟨schedule, hsteer⟩ := steer_eq (w := { w with bus }) hm paused
    have hrun : Live.transition (execute callDepth thread number) number (transitionTo paused)
        { w with bus } = (.ok (), World.steer { w with bus } number m paused) :=
      transition_steers (w := { w with bus }) hm hsteered paused
    refine ⟨_, (congrArg Prod.snd hrun).trans hsteer, h.steer hm paused schedule,
      ⟨_, _, _, rfl⟩, ?_⟩
    apply List.ext_getElem?
    intro i
    rw [List.getElem?_map, List.getElem?_map]
    exact map_flagSources (fun _ _ => rfl) paused _ w.sources i

/-! ## Subscribing -/

/-- An observer is subscribed to a source that is not periodic. -/
theorem subscribe_observer {number source : Nat} {m : Monitor} {observer : Observer}
    {event handler : String} (hm : w.monitors[number]? = some m)
    (hevent : m.events.lookup event = some source)
    (hhandler : m.handlers.lookup handler = some (.observer observer))
    (hperiodic : w.sources[source]?.map (·.isPeriodic) = some false) :
    w.subscribe number event handler = .ok (w.modifySource source (·.observe observer)) := by
  have hfound : m.event event = .ok source := by
    unfold Monitor.event
    rw [hevent]
  have hreached : m.handler handler = .ok (.observer observer) := by
    unfold Monitor.handler
    rw [hhandler]
  refine bind_eq_ok.mpr ⟨m, monitor_eq_ok hm, ?_⟩
  refine bind_eq_ok.mpr ⟨source, hfound, ?_⟩
  refine bind_eq_ok.mpr ⟨_, hreached, ?_⟩
  simp only [hperiodic]
  rfl

/-- The first observer of a world listens to its source. -/
theorem isListening_observe (hnoting : ∀ payload, (l.observer.react payload).IsNoting)
    (hbelongs : l.observer.owner = some l.monitor) (hwired : w.IsWired)
    (hconsumer : (w.consumers.filter (·.listensTo l.source)).map (·.config) = [l.config])
    (hpaused : w.sources[l.source]?.map (·.paused) = some (!running))
    (hunobserved : ∀ s ∈ w.sources, s.observers = [])
    (hmonitors : ∀ m ∈ w.monitors, m.IsSteered ∧ m.dropped = false)
    (howner : ∃ m, w.monitors[l.monitor]? = some m ∧ m.paused = !running ∧
      l.source ∈ m.events.map (·.2))
    (halone : ∀ (k : Nat) (m : Monitor), w.monitors[k]? = some m →
      l.source ∈ m.events.map (·.2) → k = l.monitor) :
    IsListening l running (w.modifySource l.source (·.observe l.observer)) := by
  obtain ⟨s, hs, hflag⟩ := Option.map_eq_some_iff.mp hpaused
  have hnone := hunobserved s (List.mem_of_getElem? hs)
  have hget : ∀ i : Nat, (w.modifySource l.source (·.observe l.observer)).sources[i]? =
      w.sources[i]?.map fun s => if l.source = i then s.observe l.observer else s := by
    intro i
    exact List.getElem?_modify ..
  have hlength : (w.modifySource l.source (·.observe l.observer)).sources.length =
      w.sources.length := by
    simp [World.modifySource]
  refine ⟨hnoting, hbelongs, hwired.congr rfl rfl hlength, hconsumer, ?_, ?_, hmonitors, howner,
    halone⟩
  · rw [hget, hs]
    simp [Source.observe, hnone, hflag]
  · intro i other hother hne
    rw [hget] at hother
    obtain ⟨old, hold, heq⟩ := Option.map_eq_some_iff.mp hother
    rw [if_neg fun h => hne h.symm] at heq
    rw [← heq]
    exact hunobserved old (List.mem_of_getElem? hold)

end Listening

end Watchtower.Live
