-- What is bound while a system is linked. A consumer that was started has its queue bound until
-- code stops it, and code starts none. So the bindings of the bus are those of the consumers that
-- run: of all of them where no code asks to stop one.
import Watchtower.Live.Script
import Watchtower.Manifest.Basic
import Watchtower.Proofs.Live.Channels
import Watchtower.Proofs.Live.Mail

namespace Watchtower.Live

/-! ## Bindings -/

/-- The binding for which a consumer asks, as a manifest lists it. -/
def ConsumerConfig.listed (c : ConsumerConfig) : Watchtower.Binding :=
  ⟨c.exchange, c.routingKey, c.queue⟩

/-- A binding of the bus, as a manifest lists it. -/
def Binding.listed (r : Binding) : Watchtower.Binding := ⟨r.exchange, r.routingKey, r.queue⟩

theorem Bus.bindings_publish (b : Bus) (exchange routingKey : String) (payload : Payload) :
    (b.publish exchange routingKey payload).2.bindings = b.bindings := by
  unfold publish
  simp only
  induction b.routes exchange routingKey generalizing b with
  | nil => rfl
  | cons r rest ih => exact (ih _).trans (bindings_send b _ _)

namespace World

/-- The consumers were started for these bindings, one for each and in their order, and those that
run are bound. All of them run where this is promised. -/
structure Provides (calm : Prop) (listed : List Watchtower.Binding) (w : World) : Prop where
  started : w.consumers.map (·.config.listed) = listed
  bound : w.bus.bindings.map Binding.listed =
    (w.consumers.filter (·.isRunning)).map (·.config.listed)
  running : calm → ∀ c ∈ w.consumers, c.isRunning = true

section Provision

variable {calm : Prop} {listed : List Watchtower.Binding} {w w' : World}

theorem Provides.congr (h : w.Provides calm listed) (hbindings : w'.bus.bindings = w.bus.bindings)
    (hconsumers : w'.consumers = w.consumers) : w'.Provides calm listed := by
  refine ⟨?_, ?_, ?_⟩
  · rw [hconsumers]
    exact h.started
  · rw [hbindings, hconsumers]
    exact h.bound
  · rw [hconsumers]
    exact h.running

/-- Where nothing is bound and no consumer was started, nothing is listed. -/
theorem provides_nil (hbus : w.bus.bindings = []) (hconsumers : w.consumers = []) (calm : Prop) :
    w.Provides calm [] := by
  refine ⟨by rw [hconsumers]; rfl, by rw [hbus, hconsumers]; rfl, fun _ c hc => ?_⟩
  rw [hconsumers] at hc
  cases hc

/-- What is bound was started. -/
theorem Provides.bound_sublist (h : w.Provides calm listed) :
    (w.bus.bindings.map Binding.listed).Sublist listed := by
  rw [h.bound, ← h.started]
  exact List.filter_sublist.map _

/-- Where all consumers run, all of them are bound. -/
theorem Provides.bound_eq (h : w.Provides calm listed) (hcalm : calm) :
    w.bus.bindings.map Binding.listed = listed := by
  have hall : w.consumers.filter (·.isRunning) = w.consumers :=
    List.filter_eq_self.mpr (h.running hcalm)
  rw [h.bound, hall, h.started]

/-! ## Starting -/

theorem Provides.isBound_eq_false (h : w.Provides calm listed) {queue : String}
    (hfree : queue ∉ listed.map (·.queue)) : w.bus.isBound queue = false := by
  unfold Bus.isBound
  rw [List.any_eq_false]
  intro r hr hqueue
  have hmem : r.listed ∈ listed := h.bound_sublist.subset (List.mem_map_of_mem hr)
  have hname : r.listed.queue = queue := eq_of_beq hqueue
  exact hfree (hname ▸ List.mem_map_of_mem hmem)

theorem Provides.tune (h : w.Provides calm listed) (source : Nat) (config : ConsumerConfig) :
    (w.tune source config).Provides calm (listed ++ [config.listed]) := by
  refine ⟨?_, ?_, fun hcalm c hc => ?_⟩
  · show (w.consumers ++ [w.nextConsumer source config]).map _ = _
    rw [List.map_append, h.started]
    rfl
  · show (w.bus.bindings ++ [_]).map _ =
      ((w.consumers ++ [w.nextConsumer source config]).filter _).map _
    rw [List.map_append, h.bound, List.filter_append, List.map_append]
    rfl
  · rcases List.mem_append.mp hc with hold | hnew
    · exact h.running hcalm c hold
    · rw [List.mem_singleton.mp hnew]
      rfl

/-- The consumer of a source without one is started, where nobody has the queue. -/
theorem Provides.consume_eq_ok (h : w.Provides calm listed) {source : Nat} {s : Source}
    (hs : w.sources[source]? = some s) (hnone : s.consumer = none) {config : ConsumerConfig}
    (hfree : config.queue ∉ listed.map (·.queue)) :
    w.consume source config = .ok (w.tune source config) := by
  rw [consume_eq]
  simp [h.isBound_eq_false hfree, hs, hnone]

/-- Nothing but a started consumer comes of a source without one, where nobody has the queue. -/
theorem Provides.eq_tune (h : w.Provides calm listed) {source : Nat} {s : Source}
    (hs : w.sources[source]? = some s) (hnone : s.consumer = none) {config : ConsumerConfig}
    (hfree : config.queue ∉ listed.map (·.queue)) {site : String}
    (hconsume : w.consume source config = .ok w' ∨
      ∃ fault, w.consume source config = .error fault ∧ w' = w.record site fault) :
    w' = w.tune source config := by
  have hstarted := h.consume_eq_ok hs hnone hfree
  rcases hconsume with hok | ⟨fault, herror, -⟩
  · exact (Except.ok.inj (hstarted.symm.trans hok)).symm
  · cases hstarted.symm.trans herror

/-- A source without a consumer gets one, where nobody has the queue. -/
theorem Provides.consume (h : w.Provides calm listed) {source : Nat} {s : Source}
    (hs : w.sources[source]? = some s) (hnone : s.consumer = none) {config : ConsumerConfig}
    (hfree : config.queue ∉ listed.map (·.queue)) {site : String}
    (hconsume : w.consume source config = .ok w' ∨
      ∃ fault, w.consume source config = .error fault ∧ w' = w.record site fault) :
    w'.Provides calm (listed ++ [config.listed]) := by
  rw [h.eq_tune hs hnone hfree hconsume]
  exact h.tune source config

/-! ## Stopping -/

/-- Of the consumers that run, the one that is stopped goes: no other has its queue. -/
theorem filter_isRunning_set {consumers : List Consumer}
    (hqueues : (consumers.map (·.config.queue)).Nodup) {number : Nat} {c : Consumer}
    (hc : consumers[number]? = some c) :
    (consumers.set number { c with isRunning := false }).filter (·.isRunning) =
      (consumers.filter (·.isRunning)).filter (·.config.queue != c.config.queue) := by
  obtain ⟨hlt, hfound⟩ := List.getElem?_eq_some_iff.mp hc
  obtain ⟨before, after, hsplit, -, hset⟩ :=
    @List.exists_of_set _ number { c with isRunning := false } consumers hlt
  rw [hfound] at hsplit
  rw [hsplit, List.map_append, List.map_cons, List.nodup_middle, List.nodup_cons,
    ← List.map_append] at hqueues
  have hothers : ∀ other ∈ before ++ after, (other.config.queue != c.config.queue) = true := by
    intro other hother
    rw [bne_iff_ne]
    intro hsame
    exact hqueues.1 (hsame ▸ List.mem_map_of_mem hother)
  have hkeep : ((before ++ after).filter (·.isRunning)).filter
      (·.config.queue != c.config.queue) = (before ++ after).filter (·.isRunning) :=
    List.filter_eq_self.mpr fun other hother => hothers other (List.mem_of_mem_filter hother)
  have hgone : (before ++ c :: after).filter (·.config.queue != c.config.queue) =
      (before ++ after).filter (·.config.queue != c.config.queue) := by
    simp [List.filter_append]
  have hstopped : (before ++ { c with isRunning := false } :: after).filter (·.isRunning) =
      (before ++ after).filter (·.isRunning) := by
    simp [List.filter_append]
  rw [hset, hstopped, List.filter_comm, hsplit, hgone, List.filter_comm, hkeep]

/-- A consumer that is stopped is the one that is unbound: no other has its queue. -/
theorem Provides.stop (h : w.Provides calm listed) (hqueues : (listed.map (·.queue)).Nodup)
    {number : Nat} {c : Consumer} (hc : w.consumers[number]? = some c)
    (hbus : w'.bus = w.bus.unbind c.config.queue)
    (hconsumers : w'.consumers = w.consumers.set number { c with isRunning := false })
    (hrestless : ¬ calm) : w'.Provides calm listed := by
  have hlt : number < w.consumers.length := (List.getElem?_eq_some_iff.mp hc).1
  have hnames : (w.bus.bindings.map (·.queue)).Nodup := by
    have hsub := hqueues.sublist (h.bound_sublist.map (·.queue))
    rwa [List.map_map] at hsub
  have hown : (w.consumers.map (·.config.queue)).Nodup := by
    rwa [← h.started, List.map_map] at hqueues
  refine ⟨?_, ?_, fun hcalm => absurd hcalm hrestless⟩
  · rw [← h.started, hconsumers]
    exact map_set_of_eq hc rfl
  · have hbound := congrArg (List.filter (·.queue != c.config.queue)) h.bound
    rw [List.filter_map, List.filter_map] at hbound
    rw [hbus, Bus.bindings_unbind hnames, hconsumers, filter_isRunning_set hown hc]
    exact hbound

/-- A request leaves what was started, and all of it bound unless a consumer is stopped. -/
theorem Provides.touches (h : w.Provides calm listed) (hqueues : (listed.map (·.queue)).Nodup)
    {request : Request} (hrequest : calm → ∀ number, request ≠ .stop number)
    (htouches : w.Touches request w') : w'.Provides calm listed := by
  cases htouches with
  | leaves hbus hconsumers => exact h.congr (congrArg Bus.bindings hbus) hconsumers
  | publishes exchange routingKey path previous current hbus hconsumers =>
    refine h.congr ?_ hconsumers
    rw [hbus, Bus.bindings_publish]
  | stops number c hstop hc hrunning hbus hconsumers =>
    exact h.stop hqueues hc hbus hconsumers fun hcalm => hrequest hcalm number hstop

end Provision

end World

/-! ## User code -/

/-- The body asks to stop no consumer. -/
def Body.IsCalm (body : Body) : Prop :=
  body.AsksOnly fun request => ∀ number, request ≠ .stop number

/-- The code blocks of a monitor leave the consumers alone: they ask to stop none, and to start one
is nothing that a body can ask for. -/
def Bindings.IsCalmFor (bindings : Bindings) (monitor : String) : Prop :=
  ∀ i body, bindings.code monitor i = some body → ∀ number, (body number).IsCalm

/-- The code blocks leave the consumers alone: they ask to stop none, and to start one is nothing
that a body can ask for. -/
def Bindings.IsCalm (bindings : Bindings) : Prop :=
  ∀ name i body, bindings.code name i = some body → ∀ number, (body number).IsCalm

theorem Bindings.IsCalm.isCalmFor {bindings : Bindings} (h : bindings.IsCalm) (monitor : String) :
    bindings.IsCalmFor monitor :=
  h monitor

namespace Action

end Action

section Code

variable {calm : Prop} {listed : List Watchtower.Binding} {w w' : World}

theorem Body.perform_provides (hqueues : (listed.map (·.queue)).Nodup) {thread : String}
    {body : Body} (hbody : calm → body.IsCalm) {outcome : Except Halt Unit}
    (hrun : body.perform thread w = (outcome, w')) (horderly : w.IsOrderly)
    (h : w.Provides calm listed) : w'.IsOrderly ∧ w'.Provides calm listed := by
  have hasks : body.AsksOnly fun request => calm → ∀ number, request ≠ .stop number := by
    by_cases hcalm : calm
    · exact (hbody hcalm).mono fun request hrequest _ => hrequest
    · exact body.asksOnly_of_all fun request hholds => absurd hholds hcalm
  have hkept := hasks.run_preserves (P := fun w₁ => w₁.IsOrderly ∧ w₁.Provides calm listed)
    (fun _ _ _ _ hw => ⟨hw.1, hw.2.congr rfl rfl⟩)
    (fun request hrequest _ hw => ⟨answer_isOrderly 63 thread hw.1 request,
      hw.2.touches hqueues hrequest (answer_touches hw.1 63 thread request)⟩)
    thread w ⟨horderly, h⟩
  have hleft : (body.perform thread w).2 = w' := by rw [hrun]
  rw [← hleft]
  exact hkept

/-- Code blocks leave what was started. -/
theorem CodeRuns.provides {code : Nat → Option (Nat → Body)} {name : String} {number : Nat}
    {thread : String} {Begins : World → Prop} {indexes : List Nat} {outcome : Except Halt Unit}
    (hruns : CodeRuns code name number thread Begins indexes w outcome w')
    (hqueues : (listed.map (·.queue)).Nodup)
    (hcode : calm → ∀ i body, code i = some body → (body number).IsCalm)
    (horderly : w.IsOrderly) (h : w.Provides calm listed) : w'.Provides calm listed := by
  induction hruns with
  | done w => exact h
  | unbound rest w hnone => exact h
  | halts rest hsome hbegins hrun =>
    exact (Body.perform_provides hqueues (fun hcalm => hcode hcalm _ _ hsome) hrun horderly h).2
  | next hsome hbegins hrun hrest ih =>
    obtain ⟨horderly', h'⟩ :=
      Body.perform_provides hqueues (fun hcalm => hcode hcalm _ _ hsome) hrun horderly h
    exact ih horderly' h'

/-- A constructor leaves what was started. -/
theorem Constructs.provides {code : Nat → Option (Nat → Body)} {name : String} {number : Nat}
    {thread : String} {registry : List (String × Handle)} {usings : List String} {blocks : Nat}
    {outcome : Except Halt Unit}
    (hconstructs : Constructs code name number thread registry usings blocks w outcome w')
    (hqueues : (listed.map (·.queue)).Nodup)
    (hcode : calm → ∀ i body, code i = some body → (body number).IsCalm)
    (horderly : w.IsOrderly) (h : w.Provides calm listed) : w'.Provides calm listed := by
  cases hconstructs with
  | lacks hm hspace hbound => exact h.congr rfl rfl
  | runs hm hthere hbound hruns =>
    exact hruns.provides hqueues hcode (horderly.bindAt hm _) (h.congr rfl rfl)

end Code

end Watchtower.Live
