-- Signals from outside. Whoever publishes, calls what a probe watches, moves probes or moves
-- monitors sends a signal, and after each signal the bus is flushed. An observer that listens to
-- the source of a probe hears, while its monitor runs, just the payloads of its kind that signals
-- put on the pair of its consumer, in their order.
import Watchtower.Proofs.Live.Listening
import Watchtower.Proofs.Live.Mail

namespace Watchtower.Live

/-! ## Calls that a probe sees -/

theorem payloads_callEvents (transaction : Uuid) (stamp : Nat → Uuid × Timestamp)
    (call : MethodCall) (start stop : Nat) (outcome : Except Fault Json) :
    (callEvents transaction stamp call start stop outcome).map (·.payload) =
      callPayloads call start stop outcome := by
  cases outcome with
  | ok value => rfl
  | error fault => rfl

/-- A probe that runs publishes all that is raised at it, and one that does not run nothing. -/
theorem World.foldl_raise (w : World) (routingKey : String) (payloads : List Payload) :
    payloads.foldl (fun w payload => (w.raise routingKey payload).2) w = { w with
      bus := w.bus.publishAll probeExchange routingKey
        (if w.probes.isRunning? routingKey = some true then payloads else []) } := by
  induction payloads generalizing w with
  | nil => simp [Bus.publishAll]
  | cons payload rest ih =>
    rw [List.foldl_cons, ih]
    unfold World.raise Probes.raise
    by_cases hrunning : w.probes.isRunning? routingKey = some true
    · simp [hrunning, Bus.publishAll]
    · simp [hrunning, Bus.publishAll]

theorem World.intercept_eq (w : World) (routingKey : String) (call : MethodCall) (start stop : Nat)
    (outcome : Except Fault Json) (transaction : Uuid) (stamp : Nat → Uuid × Timestamp) :
    w.intercept routingKey call start stop outcome transaction stamp = { w with
      bus := w.bus.publishAll probeExchange routingKey
        (if w.probes.isRunning? routingKey = some true then callPayloads call start stop outcome
          else []) } := by
  rw [← w.foldl_raise, ← payloads_callEvents transaction stamp, List.foldl_map]
  rfl

/-- What comes to a system from outside. -/
inductive Signal where
  | publish (exchange routingKey : String) (payload : Payload)
  /-- A call at a place that a probe watches. -/
  | intercept (routingKey : String) (call : MethodCall) (start stop : Nat)
      (outcome : Except Fault Json) (transaction : Uuid) (stamp : Nat → Uuid × Timestamp)
  | startProbe (routingKey : String)
  | stopProbe (routingKey : String)
  | pause (monitor : Nat)
  | resume (monitor : Nat)

namespace Signal

/-- What a signal does to the world. -/
def perform (w : World) : Signal → World
  | .publish exchange routingKey payload =>
    { w with bus := (w.bus.publish exchange routingKey payload).2 }
  | .intercept routingKey call start stop outcome transaction stamp =>
    w.intercept routingKey call start stop outcome transaction stamp
  | .startProbe routingKey => { w with probes := w.probes.setRunning routingKey true }
  | .stopProbe routingKey => { w with probes := w.probes.setRunning routingKey false }
  | .pause monitor => (pauseMonitor "" monitor w).2
  | .resume monitor => (resumeMonitor "" monitor w).2

/-- The payloads that a signal puts on a pair, given which probes run. -/
def puts (probes : Probes) (exchange routingKey : String) : Signal → List Payload
  | .publish exchange' routingKey' payload =>
    if exchange = exchange' ∧ routingKey = routingKey' then [payload] else []
  | .intercept routingKey' call start stop outcome _ _ =>
    if exchange = probeExchange ∧ routingKey = routingKey' then
      if probes.isRunning? routingKey' = some true then callPayloads call start stop outcome else []
    else []
  | _ => []

/-- The probes after a signal. -/
def probes (probes : Probes) : Signal → Probes
  | .startProbe routingKey => probes.setRunning routingKey true
  | .stopProbe routingKey => probes.setRunning routingKey false
  | _ => probes

/-- Whether a monitor runs after a signal. -/
def leaves (monitor : Nat) (running : Bool) : Signal → Bool
  | .pause other => if other = monitor then false else running
  | .resume other => if other = monitor then true else running
  | _ => running

end Signal

/-- Signals one after the other, each followed by a flush. -/
def runSignals (w : World) (signals : List Signal) : World :=
  signals.foldl (fun w signal => (signal.perform w).flush) w

/-- The payloads of a kind that signals put on a pair while a monitor runs. -/
def arrivals (monitor : Nat) (exchange routingKey : String) (kind : EventKind) :
    Bool → Probes → List Signal → List Payload
  | _, _, [] => []
  | running, probes, signal :: rest =>
    (if running then (signal.puts probes exchange routingKey).filter (·.kind = kind) else [])
      ++ arrivals monitor exchange routingKey kind (signal.leaves monitor running)
        (signal.probes probes) rest

/-! ## Attending to a probe -/

/-- Somebody listens to a source that is raised by a probe. -/
structure IsAttending (l : Listening) (kind : EventKind) (running : Bool) (w : World) : Prop where
  listening : IsListening l running w
  trigger : ∃ text, w.sources[l.source]?.map (·.trigger) = some (.probe kind text)

/-- What is noted of payloads of a kind: nothing by an observer of another kind. -/
def Listening.notes (l : Listening) (kind : EventKind) (payloads : List Payload) :
    List JournalEntry :=
  if kind = l.observer.kind then
    payloads.flatMap fun payload => (l.observer.react payload).entries l.config.queue
  else []

theorem Listening.notes_append (l : Listening) (kind : EventKind) (first second : List Payload) :
    l.notes kind (first ++ second) = l.notes kind first ++ l.notes kind second := by
  unfold Listening.notes
  split
  · rw [List.flatMap_append]
  · rfl

section Attending

variable {l : Listening} {kind : EventKind} {running : Bool} {w : World}

/-- Of payloads that are delivered to the source, those of its kind are noted while its monitor
runs. -/
theorem IsAttending.heardAt (h : IsAttending l kind running w) (payloads : List Payload) :
    payloads.flatMap (w.heardAt l.config.queue · l.source) =
      l.notes kind (if running then payloads.filter (·.kind = kind) else []) := by
  obtain ⟨text, htrigger⟩ := h.trigger
  obtain ⟨s, hs, heq⟩ := Option.map_eq_some_iff.mp htrigger
  have hone : ∀ payload : Payload, w.heardAt l.config.queue payload l.source =
      if running ∧ payload.kind = kind ∧ payload.kind = l.observer.kind then
        (l.observer.react payload).entries l.config.queue else [] := by
    intro payload
    have haccepts : s.accepts payload = decide (payload.kind = kind) := by
      unfold Source.accepts
      simp only [heq]
    rw [h.listening.heardAt_source hs]
    simp only [haccepts, decide_eq_true_eq]
  unfold Listening.notes
  cases running with
  | false => simp [hone]
  | true =>
    simp only [if_true]
    by_cases hsame : kind = l.observer.kind
    · rw [if_pos hsame, flatMap_filter]
      unfold List.flatMap
      congr 1
      apply List.map_congr_left
      intro payload hpayload
      by_cases hkind : payload.kind = kind
      · simp [hone, hkind, hsame]
      · simp [hone, hkind]
    · rw [if_neg hsame, List.flatMap_eq_nil_iff]
      intro payload hpayload
      rw [hone, if_neg]
      rintro ⟨-, hkind, hobserver⟩
      exact hsame (hkind.symm.trans hobserver)

/-- Nobody hears of waiting changes: a probe raises no changes. -/
theorem IsAttending.unheard (h : IsAttending l kind running w) (hkind : kind ≠ .change)
    {mail : Nat → List Envelope} (hmail : IsChanges mail) (i : Nat) :
    ∀ c ∈ w.consumers, w.heardIn c (mail i) = [] := by
  intro c hc
  obtain ⟨number, -, hlistener⟩ := h.listening.wired.listens c hc
  obtain ⟨text, htrigger⟩ := h.trigger
  obtain ⟨s, hs, heq⟩ := Option.map_eq_some_iff.mp htrigger
  unfold World.heardIn
  rw [List.flatMap_eq_nil_iff]
  intro e he
  obtain ⟨path, previous, current, rfl⟩ := hmail i e he
  unfold World.heard
  simp only [hlistener]
  by_cases hsource : number = l.source
  · have hrefused : s.accepts (.change path previous current) = false := by
      unfold Source.accepts
      simp only [heq]
      exact decide_eq_false fun hsame => hkind hsame.symm
    rw [hsource, h.listening.heardAt_source hs]
    simp [hrefused]
  · exact h.listening.heardAt_of_ne _ _ hsource

/-- Payloads are published on a pair, behind waiting changes. After a flush the observer has noted
those that were for its source. -/
theorem IsAttending.flush (h : IsAttending l kind running w) (hkind : kind ≠ .change)
    {mail : Nat → List Envelope} (hmail : IsChanges mail) (exchange routingKey : String)
    (payloads : List Payload) {w' : World}
    (hw' : w' = ({ w with
      bus := (w.bus.holding mail).publishAll exchange routingKey payloads }).flush) :
    IsAttending l kind running w' ∧ w'.probes = w.probes ∧
      w'.journal = w.journal ++ l.notes kind (if running then
        (if l.config.exchange = exchange ∧ l.config.routingKey = routingKey then payloads
          else []).filter (·.kind = kind) else []) := by
  have hopen : ∀ i, Envelope.shutdown ∉ mail i := by
    intro i hin
    obtain ⟨path, previous, current, hchange⟩ := hmail i _ hin
    cases hchange
  have hflush := h.listening.flush_publishAll mail hopen (h.unheard hkind hmail) exchange routingKey
    payloads
  rw [← hw', h.heardAt] at hflush
  rw [hflush]
  refine ⟨⟨h.listening.after w.stores w.probes _ _, h.trigger⟩, rfl, ?_⟩
  show w.journal ++ _ = w.journal ++ _
  congr 1
  split
  · rfl
  · unfold Listening.notes
    simp

/-- Moving a monitor moves the attention with it. -/
theorem IsAttending.transition (h : IsAttending l kind running w) (hkind : kind ≠ .change)
    {mail : Nat → List Envelope} (hmail : IsChanges mail) (number : Nat) (paused : Bool)
    {w' : World} (hw' : w' = (Live.transition (execute callDepth "" number) number (transitionTo paused)
      { w with bus := w.bus.holding mail }).2.flush) :
    IsAttending l kind (if number = l.monitor then !paused else running) w' ∧
      w'.probes = w.probes ∧ w'.journal = w.journal := by
  obtain ⟨w₁, hrun, hlistening, ⟨schedule, monitors, sources, hsame⟩, htriggers⟩ :=
    h.listening.transition (w.bus.holding mail) "" number paused
  have hattending : IsAttending l kind (if number = l.monitor then !paused else running) w₁ := by
    refine ⟨hlistening, ?_⟩
    rw [← List.getElem?_map, htriggers, List.getElem?_map]
    exact h.trigger
  have hbus : w₁.bus = w.bus := by rw [hsame]
  have hflushed : w' = ({ w₁ with bus := (w₁.bus.holding mail).publishAll "" "" [] }).flush := by
    rw [hw', hrun, hbus]
    rfl
  obtain ⟨hafter, hprobes, hjournal⟩ := hattending.flush hkind hmail "" "" [] hflushed
  refine ⟨hafter, hprobes.trans (by rw [hsame]), hjournal.trans ?_⟩
  rw [hsame]
  simp [Listening.notes]

/-! ## Steps and runs -/

/-- A signal keeps the attention, and what it puts on the pair of the consumer is noted. -/
theorem IsAttending.step (h : IsAttending l kind running w) (hkind : kind ≠ .change)
    {mail : Nat → List Envelope} (hmail : IsChanges mail) (signal : Signal) {w' : World}
    (hw' : w' = (signal.perform { w with bus := w.bus.holding mail }).flush) :
    IsAttending l kind (signal.leaves l.monitor running) w' ∧
      w'.probes = signal.probes w.probes ∧
      w'.journal = w.journal ++ l.notes kind (if running then
        (signal.puts w.probes l.config.exchange l.config.routingKey).filter (·.kind = kind)
          else []) := by
  -- A signal that publishes nothing is one after which nothing but the changes waits.
  have hnothing : ∀ probes : Probes, ∀ w' : World,
      w' = ({ w with probes, bus := w.bus.holding mail }).flush →
      IsAttending l kind running w' ∧ w'.probes = probes ∧
        w'.journal = w.journal ++ l.notes kind (if running then
          ([] : List Payload).filter (·.kind = kind) else []) := by
    intro probes w' hw'
    have hmoved : IsAttending l kind running { w with probes } :=
      ⟨h.listening.after w.stores probes w.journal w.bus.flushes, h.trigger⟩
    have hflushed := hmoved.flush hkind hmail "" "" [] hw'
    rw [ite_self] at hflushed
    exact hflushed
  cases signal with
  | publish exchange routingKey payload =>
    exact h.flush hkind hmail exchange routingKey [payload] hw'
  | intercept routingKey call start stop outcome transaction stamp =>
    rw [Signal.perform, World.intercept_eq] at hw'
    exact h.flush hkind hmail probeExchange routingKey _ hw'
  | startProbe routingKey => exact hnothing _ w' hw'
  | stopProbe routingKey => exact hnothing _ w' hw'
  | pause monitor =>
    obtain ⟨hattending, hprobes, hjournal⟩ := h.transition hkind hmail monitor true hw'
    exact ⟨hattending, hprobes, by simp [hjournal, Signal.puts, Listening.notes]⟩
  | resume monitor =>
    obtain ⟨hattending, hprobes, hjournal⟩ := h.transition hkind hmail monitor false hw'
    exact ⟨hattending, hprobes, by simp [hjournal, Signal.puts, Listening.notes]⟩

/-- A run of signals adds to the journal what is noted of the arrivals at the consumer, in their
order, and nothing else. -/
theorem IsAttending.run (h : IsAttending l kind running w) (hkind : kind ≠ .change)
    {mail : Nat → List Envelope} (hmail : IsChanges mail) (signals : List Signal) :
    (runSignals { w with bus := w.bus.holding mail } signals).journal = w.journal ++
      l.notes kind (arrivals l.monitor l.config.exchange l.config.routingKey kind running w.probes
        signals) := by
  -- On the signals. What waits before the first of them is gone after its flush.
  induction signals generalizing w running mail with
  | nil => simp [runSignals, arrivals, Listening.notes]
  | cons signal rest ih =>
    show (runSignals (signal.perform { w with bus := w.bus.holding mail }).flush rest).journal = _
    generalize hnext : (signal.perform { w with bus := w.bus.holding mail }).flush = next
    obtain ⟨hattending, hprobes, hjournal⟩ := h.step hkind hmail signal hnext.symm
    have hnothing : IsChanges fun _ => [] := by simp [IsChanges]
    have hrest := ih hattending hnothing
    rw [Bus.holding_nothing hattending.listening.wired.isIdle] at hrest
    rw [arrivals, Listening.notes_append, ← List.append_assoc, ← hjournal, ← hprobes]
    exact hrest

end Attending

end Watchtower.Live
