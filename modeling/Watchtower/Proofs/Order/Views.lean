-- What is seen of a world without its numbers. Parts of a world refer to each other by numbers,
-- which tell in what order the parts were added. A view follows the numbers and gives what is
-- found there instead, so that worlds can be compared whose parts were added in another order.
import Mathlib.Data.List.Forall2
import Watchtower.Proofs.Live.Construction
import Watchtower.Proofs.Live.Provision

namespace Watchtower.Live

/-! ## Nodes -/

/-- What is seen of a node that somebody holds. -/
structure HandleView where
  proxy : Proxy
  connection : Option Connection
  isRoot : Bool

/-- What is seen of a node: the connection that its number stands for. -/
def World.viewHandle (w : World) (h : Handle) : HandleView :=
  ⟨h.proxy, h.connection.bind (w.connections[·]?), h.isRoot⟩

/-- The root namespaces that were linked, as they are seen. -/
def World.viewSpaces (w : World) : List (String × HandleView) :=
  w.spaces.map fun (name, handle) => (name, w.viewHandle handle)

theorem World.viewHandle_congr {w w' : World} (h : w'.connections = w.connections) :
    w'.viewHandle = w.viewHandle := by
  funext handle
  unfold viewHandle
  rw [h]

theorem World.viewSpaces_congr {w w' : World} (hspaces : w'.spaces = w.spaces)
    (hconnections : w'.connections = w.connections) : w'.viewSpaces = w.viewSpaces := by
  unfold viewSpaces
  rw [hspaces, viewHandle_congr hconnections]

theorem lookup_map_snd {α β : Type} (f : α → β) (table : List (String × α)) (name : String) :
    (table.map fun e => (e.1, f e.2)).lookup name = (table.lookup name).map f := by
  induction table with
  | nil => rfl
  | cons entry rest ih =>
    obtain ⟨key, value⟩ := entry
    rw [List.map_cons, List.lookup_cons, List.lookup_cons, ih]
    cases name == key <;> rfl

/-! ## Sources -/

/-- What is seen of the source of an event. -/
structure SourceView where
  name : String
  trigger : Trigger
  /-- The routing key of its probe. -/
  probe : Option String
  /-- What its consumer asks for. -/
  consumer : Option ConsumerConfig

/-- The consumer with a number takes for a source, and runs. -/
def World.Takes (w : World) (number source : Nat) (config : ConsumerConfig) : Prop :=
  ∃ c, w.consumers[number]? = some c ∧ c.config = config ∧ c.listener = .source source ∧
    c.isRunning = true

/-- The source with a number looks like this. It runs and nobody observes it, and its probe and
its consumer run. -/
structure World.ShowsSource (w : World) (number : Nat) (v : SourceView) : Prop where
  source : ∃ consumer, w.sources[number]? = some
      { name := v.name, trigger := v.trigger, probe := v.probe, consumer } ∧
    (∀ config, v.consumer = some config → ∃ n, consumer = some n ∧ w.Takes n number config) ∧
    (v.consumer = none → consumer = none)
  probe : ∀ key, v.probe = some key → w.probes.isRunning? key = some true

/-! ## Monitors -/

/-- The way in which a handler of a monitor is to be reached. -/
inductive HandlerPlan where
  | job (handler : String)
  | observer (name : String) (kind : EventKind) (handler : String)

/-- The handler that is planned for the monitor with a number. -/
def HandlerPlan.handler (bindings : Bindings) (monitor : String) (number : Nat) :
    HandlerPlan → Handler
  | .job handler => .job
      { owner := some number
        run := fun expression =>
          bindings.reaction monitor number handler (.interval expression) }
  | .observer name kind handler => .observer
      { name
        kind
        owner := some number
        react := bindings.reaction monitor number handler }

/-- What is seen of the members of a monitor. -/
structure MembersView where
  vars : List (String × MonitorVariable) := []
  events : List (String × SourceView) := []
  handlers : List (String × HandlerPlan) := []

/-- What is seen of a monitor. -/
structure MonitorView extends MembersView where
  name : String
  methods : List Method
  bindings : Bindings
  /-- The namespaces that can be bound. -/
  registry : String → Option HandleView
  /-- The namespaces that are bound. -/
  proxies : String → Option HandleView

/-- The events have sources that look like this, each under its name. -/
def World.ShowsEvents (w : World) (events : List (String × Nat))
    (views : List (String × SourceView)) : Prop :=
  List.Forall₂ (fun event view => event.1 = view.1 ∧ w.ShowsSource event.2 view.2) events views

/-- The handlers that are planned for the monitor with a number. -/
def handlersOf (bindings : Bindings) (monitor : String) (number : Nat)
    (plans : List (String × HandlerPlan)) : List (String × Handler) :=
  plans.map fun (name, plan) => (name, plan.handler bindings monitor number)

/-- The monitor with a number looks like this. It runs and is held. -/
structure Monitor.LooksLike (m : Monitor) (w : World) (number : Nat) (v : MonitorView) : Prop where
  name : m.qualifiedName = v.name
  vars : m.vars = v.vars
  events : w.ShowsEvents m.events v.events
  handlers : m.handlers = handlersOf v.bindings v.name number v.handlers
  methods : m.methods = v.methods
  bindings : m.bindings = v.bindings
  registry : ∀ name, (m.registry.lookup name).map w.viewHandle = v.registry name
  proxies : ∀ name, (m.proxies.lookup name).map w.viewHandle = v.proxies name
  running : m.paused = false
  held : m.dropped = false

/-- The monitor with a number looks like this. -/
def World.Shows (w : World) (number : Nat) (v : MonitorView) : Prop :=
  ∃ m, w.monitors[number]? = some m ∧ m.LooksLike w number v

/-- The monitors look like this, in their order. -/
structure World.ShowsAll (w : World) (views : List MonitorView) : Prop where
  length : w.monitors.length = views.length
  shows_ : ∀ (number : Nat) (v : MonitorView), views[number]? = some v → w.Shows number v

/-! ## Additions -/

/-- The sources stay as they are, with their consumers and their probes. More may be added. -/
structure World.KeepsSources (w w' : World) : Prop where
  sources : ∀ (number : Nat) (s : Source), w.sources[number]? = some s →
    w'.sources[number]? = some s
  consumers : ∀ (number : Nat) (c : Consumer), w.consumers[number]? = some c →
    w'.consumers[number]? = some c
  probes : ∀ key, w.probes.isRunning? key = some true → w'.probes.isRunning? key = some true

/-- Whatever is there stays as it is. Monitors may be added, with their sources, but no
namespaces. -/
structure World.StaysIn (w w' : World) : Prop extends w.KeepsSources w' where
  stores : w'.stores = w.stores
  connections : w'.connections = w.connections
  spaces : w'.spaces = w.spaces
  monitors : ∀ (number : Nat) (m : Monitor), w.monitors[number]? = some m →
    w'.monitors[number]? = some m

section Additions

variable {w w' : World}

theorem World.KeepsSources.of_eq (hsources : w'.sources = w.sources)
    (hconsumers : w'.consumers = w.consumers) (hprobes : w'.probes = w.probes) :
    w.KeepsSources w' := by
  refine ⟨fun number s hs => ?_, fun number c hc => ?_, fun key hkey => ?_⟩
  · rw [hsources, hs]
  · rw [hconsumers, hc]
  · rw [hprobes, hkey]

theorem World.StaysIn.refl (w : World) : w.StaysIn w :=
  ⟨.of_eq rfl rfl rfl, rfl, rfl, rfl, fun _ _ h => h⟩

theorem World.StaysIn.trans {w₁ w₂ w₃ : World} (h : w₁.StaysIn w₂) (h' : w₂.StaysIn w₃) :
    w₁.StaysIn w₃ where
  stores := h'.stores.trans h.stores
  connections := h'.connections.trans h.connections
  spaces := h'.spaces.trans h.spaces
  monitors number m hm := h'.monitors number m (h.monitors number m hm)
  sources number s hs := h'.sources number s (h.sources number s hs)
  consumers number c hc := h'.consumers number c (h.consumers number c hc)
  probes key hkey := h'.probes key (h.probes key hkey)

theorem World.staysIn_addMonitor (w : World) (m : Monitor) :
    w.StaysIn { w with monitors := w.monitors ++ [m] } := by
  refine ⟨.of_eq rfl rfl rfl, rfl, rfl, rfl, fun number old hold => ?_⟩
  show (w.monitors ++ [m])[number]? = some old
  rw [List.getElem?_append_left (List.getElem?_eq_some_iff.mp hold).1, hold]

/-- What is there stays as it is when the namespaces of a monitor that was added are bound. -/
theorem World.StaysIn.bindAt (h : w.StaysIn w') {number : Nat} (hnew : w.monitors.length ≤ number)
    (m : Monitor) (proxies : List (String × Handle)) :
    w.StaysIn (w'.bindAt number m proxies) := by
  refine ⟨⟨h.sources, h.consumers, h.probes⟩, h.stores, h.connections, h.spaces,
    fun place old hold => ?_⟩
  have hlt := (List.getElem?_eq_some_iff.mp hold).1
  show (w'.monitors.set number { m with proxies })[place]? = some old
  rw [List.getElem?_set_ne (by omega), h.monitors place old hold]

/-- Growth leaves what is there, where stores and probes stay. -/
theorem World.Grows.staysIn {own : String → Prop} (h : w.Grows own w')
    (hstores : w'.stores = w.stores)
    (hprobes : ∀ key, w.probes.isRunning? key = some true →
      w'.probes.isRunning? key = some true) : w.StaysIn w' where
  stores := hstores
  connections := h.connections
  spaces := h.spaces
  monitors _ _ hm := h.monitor hm
  sources := h.kept
  consumers number c hc := by
    obtain ⟨more, hmore, -⟩ := h.consumers
    rw [hmore, List.getElem?_append_left (List.getElem?_eq_some_iff.mp hc).1, hc]
  probes := hprobes

theorem World.Takes.stays {number source : Nat} {config : ConsumerConfig}
    (h : w.Takes number source config) (hs : w.KeepsSources w') :
    w'.Takes number source config := by
  obtain ⟨c, hc, hrest⟩ := h
  exact ⟨c, hs.consumers number c hc, hrest⟩

theorem World.ShowsSource.stays {number : Nat} {v : SourceView} (h : w.ShowsSource number v)
    (hs : w.KeepsSources w') : w'.ShowsSource number v := by
  obtain ⟨⟨consumer, hfound, hsome, hnone⟩, hprobe⟩ := h
  refine ⟨⟨consumer, hs.sources number _ hfound, fun config hconfig => ?_, hnone⟩,
    fun key hkey => hs.probes key (hprobe key hkey)⟩
  obtain ⟨n, hn, htakes⟩ := hsome config hconfig
  exact ⟨n, hn, htakes.stays hs⟩

theorem World.ShowsEvents.stays {events : List (String × Nat)} {views : List (String × SourceView)}
    (h : w.ShowsEvents events views) (hs : w.KeepsSources w') : w'.ShowsEvents events views :=
  List.Forall₂.imp (fun _ _ hshows => ⟨hshows.1, hshows.2.stays hs⟩) h

theorem Monitor.LooksLike.stays {m : Monitor} {number : Nat} {v : MonitorView}
    (h : m.LooksLike w number v) (hs : w.StaysIn w') : m.LooksLike w' number v where
  name := h.name
  vars := h.vars
  events := h.events.stays hs.toKeepsSources
  handlers := h.handlers
  methods := h.methods
  bindings := h.bindings
  registry := by
    rw [World.viewHandle_congr hs.connections]
    exact h.registry
  proxies := by
    rw [World.viewHandle_congr hs.connections]
    exact h.proxies
  running := h.running
  held := h.held

theorem World.Shows.stays {number : Nat} {v : MonitorView} (h : w.Shows number v)
    (hs : w.StaysIn w') : w'.Shows number v := by
  obtain ⟨m, hm, hlooks⟩ := h
  exact ⟨m, hs.monitors number m hm, hlooks.stays hs⟩

/-- One more monitor is seen behind the others. -/
theorem World.ShowsAll.snoc {views : List MonitorView} (h : w.ShowsAll views) (hs : w.StaysIn w')
    {v : MonitorView} (hlength : w'.monitors.length = w.monitors.length + 1)
    (hv : w'.Shows w.monitors.length v) : w'.ShowsAll (views ++ [v]) := by
  refine ⟨by simp [hlength, h.length], fun number view hview => ?_⟩
  by_cases hold : number < views.length
  · rw [List.getElem?_append_left hold] at hview
    exact (h.shows_ number view hview).stays hs
  · have hlt := (List.getElem?_eq_some_iff.mp hview).1
    rw [List.length_append, List.length_singleton] at hlt
    obtain rfl : number = views.length := by omega
    rw [List.getElem?_concat_length] at hview
    cases hview
    rw [← h.length]
    exact hv

end Additions

/-! ## Worlds -/

/-- Two worlds look alike from two of their monitors: the monitors look alike, and the stores are
the same. -/
structure World.LooksFrom (number : Nat) (w : World) (number' : Nat) (w' : World) : Prop where
  stores : w'.stores = w.stores
  monitors : ∃ v, w.Shows number v ∧ w'.Shows number' v

/-- Two worlds look alike, but for the order of their parts. -/
structure World.LooksAlike (w w' : World) : Prop where
  stores : w'.stores = w.stores
  spaces : w'.viewSpaces = w.viewSpaces
  bindings : (w'.bus.bindings.map Binding.listed).Perm (w.bus.bindings.map Binding.listed)
  failures : w'.failures.Perm w.failures
  monitors : ∃ views views', w.ShowsAll views ∧ w'.ShowsAll views' ∧ views'.Perm views

end Watchtower.Live
