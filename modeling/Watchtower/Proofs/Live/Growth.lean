-- Growing worlds. While a system is linked, sources, consumers and monitors are added to it, and
-- those that are there stay as they are. So a source that was tuned to the changes of a variable
-- stays tuned.
import Watchtower.Proofs.Live.Flush
import Watchtower.Proofs.Live.Transition

namespace Watchtower.Live

/-- The consumer listens for the source with a number. -/
def Consumer.listensTo (c : Consumer) (number : Nat) : Bool :=
  match c.listener with
  | .source source => source == number
  | .callback _ => false

/-- A monitor as it is linked: it is held and runs, and its events have sources within bounds. -/
structure Monitor.IsFresh (m : Monitor) (first last : Nat) : Prop where
  steered : m.IsSteered
  running : m.paused = false
  held : m.dropped = false
  sources : ∀ event ∈ m.events, first ≤ event.2 ∧ event.2 < last

theorem Monitor.IsFresh.widen {m : Monitor} {first last first' last' : Nat}
    (h : m.IsFresh first last) (hfirst : first' ≤ first) (hlast : last ≤ last') :
    m.IsFresh first' last' := by
  refine ⟨h.steered, h.running, h.held, fun event hevent => ?_⟩
  have hbounds := h.sources event hevent
  omega

/-- The sources of a monitor come before those of another. -/
def Monitor.IsBefore (m m' : Monitor) : Prop :=
  ∀ event ∈ m.events, ∀ event' ∈ m'.events, event.2 < event'.2

theorem Monitor.IsFresh.isBefore {m m' : Monitor} {first last last' : Nat}
    (h : m.IsFresh first last) (h' : m'.IsFresh last last') : m.IsBefore m' := by
  intro event hevent event' hevent'
  have hbounds := h.sources event hevent
  have hbounds' := h'.sources event' hevent'
  omega

namespace World

/-! ## Growth -/

/-- Sources, consumers and monitors were added, and the others stay. The new sources run and have
no observers, the new consumers listen for new sources, on queues of their own, and the events of
the new monitors have new sources, each its own. -/
structure Grows (own : String → Prop) (w w' : World) : Prop where
  kept : ∀ (i : Nat) (s : Source), w.sources[i]? = some s → w'.sources[i]? = some s
  fresh : ∀ (i : Nat) (s : Source), w.sources[i]? = none → w'.sources[i]? = some s →
    s.observers = [] ∧ s.paused = false
  consumers : ∃ more, w'.consumers = w.consumers ++ more ∧ ∀ c ∈ more, own c.config.queue ∧
    ∃ number, w.sources.length ≤ number ∧ c.listener = .source number
  monitors : ∃ more, w'.monitors = w.monitors ++ more ∧ more.Pairwise Monitor.IsBefore ∧
    ∀ m ∈ more, m.IsFresh w.sources.length w'.sources.length
  wired : w.IsWired → w'.IsWired
  spaces : w'.spaces = w.spaces
  connections : w'.connections = w.connections
  journal : w'.journal = w.journal

theorem Grows.refl (own : String → Prop) (w : World) : Grows own w w where
  kept := fun _ _ h => h
  fresh := fun _ _ hnone hsome => by
    rw [hnone] at hsome
    cases hsome
  consumers := ⟨[], by simp⟩
  monitors := ⟨[], by simp⟩
  wired := fun h => h
  spaces := rfl
  connections := rfl
  journal := rfl

theorem Grows.monitor {own : String → Prop} {w w' : World} (h : Grows own w w') {n : Nat}
    {m : Monitor} (hm : w.monitors[n]? = some m) : w'.monitors[n]? = some m := by
  obtain ⟨more, hmore, -⟩ := h.monitors
  rw [hmore, List.getElem?_append_left (List.getElem?_eq_some_iff.mp hm).1, hm]

theorem length_le_of_kept {sources sources' : List Source}
    (h : ∀ (i : Nat) (s : Source), sources[i]? = some s → sources'[i]? = some s) :
    sources.length ≤ sources'.length := by
  apply Nat.le_of_not_lt
  intro hlt
  have hlast := h sources'.length _ (List.getElem?_eq_getElem hlt)
  simp at hlast

theorem Grows.length_le {own : String → Prop} {w w' : World} (h : Grows own w w') :
    w.sources.length ≤ w'.sources.length :=
  length_le_of_kept h.kept

theorem Grows.trans {own : String → Prop} {w₁ w₂ w₃ : World} (h : Grows own w₁ w₂)
    (h' : Grows own w₂ w₃) : Grows own w₁ w₃ := by
  obtain ⟨more, hmore, hown⟩ := h.consumers
  obtain ⟨more', hmore', hown'⟩ := h'.consumers
  obtain ⟨monitors, hmonitors, hapart, hfresh⟩ := h.monitors
  obtain ⟨monitors', hmonitors', hapart', hfresh'⟩ := h'.monitors
  refine ⟨fun i s hs => h'.kept i s (h.kept i s hs), ?_, ⟨more ++ more', ?_, ?_⟩,
    ⟨monitors ++ monitors', ?_, ?_, ?_⟩, fun hw => h'.wired (h.wired hw), h'.spaces.trans h.spaces,
    h'.connections.trans h.connections, h'.journal.trans h.journal⟩
  · intro i s hnone hsome
    cases hmid : w₂.sources[i]? with
    | none => exact h'.fresh i s hmid hsome
    | some s' =>
      have hsame := h'.kept i s' hmid
      rw [hsome] at hsame
      cases hsame
      exact h.fresh i s hnone hmid
  · rw [hmore', hmore, List.append_assoc]
  · intro c hc
    rcases List.mem_append.mp hc with hc | hc
    · exact hown c hc
    · obtain ⟨hqueue, number, hnumber, hlistener⟩ := hown' c hc
      exact ⟨hqueue, number, Nat.le_trans h.length_le hnumber, hlistener⟩
  · rw [hmonitors', hmonitors, List.append_assoc]
  · rw [List.pairwise_append]
    exact ⟨hapart, hapart', fun m hm m' hm' => (hfresh m hm).isBefore (hfresh' m' hm')⟩
  · intro m hm
    rcases List.mem_append.mp hm with hm | hm
    · exact (hfresh m hm).widen (Nat.le_refl _) h'.length_le
    · exact (hfresh' m hm).widen h.length_le (Nat.le_refl _)

theorem Grows.mono {own own' : String → Prop} {w w' : World} (h : Grows own w w')
    (himp : ∀ queue, own queue → own' queue) : Grows own' w w' := by
  obtain ⟨more, hmore, hown⟩ := h.consumers
  exact ⟨h.kept, h.fresh, ⟨more, hmore, fun c hc => ⟨himp _ (hown c hc).1, (hown c hc).2⟩⟩,
    h.monitors, h.wired, h.spaces, h.connections, h.journal⟩

/-- Probes, schedules, stores and failures do not count. -/
theorem Grows.same {own : String → Prop} {w w₁ w₂ : World} (h : Grows own w w₁)
    (hsources : w₂.sources = w₁.sources) (hconsumers : w₂.consumers = w₁.consumers)
    (hmonitors : w₂.monitors = w₁.monitors) (hbus : w₂.bus = w₁.bus) (hspaces : w₂.spaces = w₁.spaces)
    (hconnections : w₂.connections = w₁.connections) (hjournal : w₂.journal = w₁.journal) :
    Grows own w w₂ := by
  obtain ⟨more, hmore, hown⟩ := h.consumers
  obtain ⟨monitors, hmores, hapart, hfresh⟩ := h.monitors
  refine ⟨?_, ?_, ⟨more, hconsumers.trans hmore, hown⟩,
    ⟨monitors, hmonitors.trans hmores, hapart, ?_⟩, ?_,
    hspaces.trans h.spaces, hconnections.trans h.connections, hjournal.trans h.journal⟩
  · rw [hsources]
    exact h.kept
  · rw [hsources]
    exact h.fresh
  · rw [hsources]
    exact hfresh
  · intro hw
    have hw₁ := h.wired hw
    exact ⟨by rw [hbus, hconsumers]; exact hw₁.bindings, by rw [hbus, hconsumers]; exact hw₁.channels,
      by rw [hconsumers]; exact hw₁.owned, by rw [hconsumers, hsources]; exact hw₁.listens⟩

/-- A source is added. -/
theorem grows_addSource (own : String → Prop) (w : World) {s : Source} (hobservers : s.observers = [])
    (hpaused : s.paused = false) : Grows own w (w.addSource s).2 := by
  refine ⟨?_, ?_, ⟨[], by simp [addSource]⟩, ⟨[], by simp [addSource]⟩, ?_, rfl, rfl, rfl⟩
  · intro i s' hs'
    have hlt : i < w.sources.length := (List.getElem?_eq_some_iff.mp hs').1
    show (w.sources ++ [s])[i]? = some s'
    rw [List.getElem?_append_left hlt, hs']
  · intro i s' hnone hsome
    have hle : w.sources.length ≤ i := List.getElem?_eq_none_iff.mp hnone
    have hlast : [s][i - w.sources.length]? = some s' := by
      rw [← List.getElem?_append_right hle]
      exact hsome
    rw [List.mem_singleton.mp (List.mem_of_getElem? hlast)]
    exact ⟨hobservers, hpaused⟩
  · intro hw
    refine ⟨hw.bindings, hw.channels, hw.owned, ?_⟩
    intro c hc
    obtain ⟨number, hlt, hlistener⟩ := hw.listens c hc
    exact ⟨number, by simp [addSource]; omega, hlistener⟩

/-- A new source is changed, but for its observers and its flag. -/
theorem Grows.modifySource {own : String → Prop} {w w' : World} (h : Grows own w w') {i : Nat}
    (hi : w.sources.length ≤ i) {f : Source → Source}
    (hf : ∀ s, (f s).observers = s.observers ∧ (f s).paused = s.paused) :
    Grows own w (w'.modifySource i f) := by
  have hlength : (w'.modifySource i f).sources.length = w'.sources.length := by
    simp [World.modifySource]
  refine ⟨?_, ?_, h.consumers, by rw [hlength]; exact h.monitors, ?_, h.spaces, h.connections,
    h.journal⟩
  · intro j s hs
    have hlt : j < w.sources.length := (List.getElem?_eq_some_iff.mp hs).1
    have hne : i ≠ j := by omega
    show (w'.sources.modify i f)[j]? = some s
    simp [hne, h.kept j s hs]
  · intro j s hnone hsome
    have hmodified : (w'.sources.modify i f)[j]? = some s := hsome
    rw [List.getElem?_modify] at hmodified
    obtain ⟨s', hs', heq⟩ := Option.map_eq_some_iff.mp hmodified
    obtain ⟨hobservers, hpaused⟩ := h.fresh j s' hnone hs'
    by_cases hij : i = j
    · rw [if_pos hij] at heq
      rw [← heq, (hf s').1, (hf s').2]
      exact ⟨hobservers, hpaused⟩
    · rw [if_neg hij] at heq
      rw [← heq]
      exact ⟨hobservers, hpaused⟩
  · intro hw
    have hw' := h.wired hw
    exact ⟨hw'.bindings, hw'.channels, hw'.owned, by rw [hlength]; exact hw'.listens⟩

/-- A monitor is added whose events have the new sources. -/
theorem Grows.addMonitor {own : String → Prop} {w w' : World} (h : Grows own w w')
    (hmonitors : w'.monitors = w.monitors) {m : Monitor}
    (hm : m.IsFresh w.sources.length w'.sources.length) (failures : List Failure) :
    Grows own w { w' with monitors := w'.monitors ++ [m], failures } := by
  refine ⟨h.kept, h.fresh, h.consumers, ⟨[m], by simp [hmonitors], by simp, ?_⟩, ?_, h.spaces,
    h.connections, h.journal⟩
  · intro other hother
    rw [List.mem_singleton.mp hother]
    exact hm
  · intro hw
    have hw' := h.wired hw
    exact ⟨hw'.bindings, hw'.channels, hw'.owned, hw'.listens⟩

/-! ## Tuning -/

/-- A consumer for a source that takes from the next channel. -/
def nextConsumer (w : World) (source : Nat) (config : ConsumerConfig) : Consumer :=
  ⟨config, .source source, true, [w.bus.channels.length]⟩

/-- A world with a consumer for a source, on a queue that was not bound. -/
def tune (w : World) (source : Nat) (config : ConsumerConfig) : World :=
  { w with
    bus := { w.bus with
      bindings := w.bus.bindings ++ [(w.nextConsumer source config).binding w.bus.channels.length]
      channels := w.bus.channels ++ [{ queue := config.queue }] }
    consumers := w.consumers ++ [w.nextConsumer source config]
    sources := w.sources.modify source fun s => { s with consumer := some w.consumers.length } }

/-- A source without a consumer gets one, unless the queue is bound. -/
theorem consume_eq (w : World) (source : Nat) (config : ConsumerConfig) :
    w.consume source config =
      if w.bus.isBound config.queue then .error (.consumer config.queue "queue is already bound")
      else if w.sources[source]?.any (·.consumer.isSome) then
        .error (.consumer config.queue "consumer already started")
      else .ok (w.tune source config) := by
  unfold consume startConsumer addConsumer
  simp only [List.getElem?_append_right (Nat.le_refl _), Nat.sub_self, List.getElem?_cons_zero]
  unfold Consumer.start Bus.bind
  by_cases hbound : w.bus.isBound config.queue = true
  · simp [hbound, bind, Except.bind]
  · by_cases hstarted : w.sources[source]?.any (·.consumer.isSome) = true
    · simp [hbound, hstarted, bind, Except.bind, pure, Except.pure]
    · simp [hbound, hstarted, bind, Except.bind, pure, Except.pure, tune, World.modifySource,
        nextConsumer, Consumer.binding]

/-- A consumer that was to be started has its queue, or its fault is recorded. -/
theorem consume_cases {w w' : World} {source : Nat} {config : ConsumerConfig} {site : String}
    (h : w.consume source config = .ok w' ∨
      ∃ fault, w.consume source config = .error fault ∧ w' = w.record site fault) :
    w' = w.tune source config ∨ ∃ fault, w' = w.record site fault := by
  rcases h with hok | ⟨fault, -, rfl⟩
  · rw [consume_eq] at hok
    split at hok
    · cases hok
    · split at hok
      · cases hok
      · cases hok
        exact .inl rfl
  · exact .inr ⟨fault, rfl⟩

/-- A queue that no consumer of a wired world has is not bound. -/
theorem IsWired.isBound_eq_false {w : World} (hw : w.IsWired) {queue : String}
    (hfree : ∀ c ∈ w.consumers, c.config.queue ≠ queue) : w.bus.isBound queue = false := by
  simp only [Bus.isBound, hw.bindings, List.any_map, List.any_eq_false]
  rintro ⟨c, i⟩ hc
  have hmem : c ∈ w.consumers := List.mem_of_getElem? (List.mk_mem_zipIdx_iff_getElem?.mp hc)
  simpa [Consumer.binding] using hfree c hmem

theorem IsWired.tune {w : World} (hw : w.IsWired) {source : Nat} (hs : source < w.sources.length)
    (config : ConsumerConfig) : (w.tune source config).IsWired := by
  have hlength := hw.length_channels
  refine ⟨?_, ?_, ?_, ?_⟩
  · show w.bus.bindings ++ _ = _
    rw [hw.bindings]
    simp [World.tune, List.zipIdx_append, hlength]
  · show w.bus.channels ++ _ = _
    rw [hw.channels]
    simp [World.tune, nextConsumer]
  · intro i c hc
    have hc' : (w.consumers ++ [w.nextConsumer source config])[i]? = some c := hc
    by_cases hi : i < w.consumers.length
    · rw [List.getElem?_append_left hi] at hc'
      exact hw.owned i c hc'
    · have hlt := (List.getElem?_eq_some_iff.mp hc').1
      rw [List.length_append, List.length_singleton] at hlt
      have hlast : i = w.consumers.length := by omega
      subst hlast
      simp only [List.getElem?_append_right (Nat.le_refl _), Nat.sub_self,
        List.getElem?_cons_zero] at hc'
      cases hc'
      rw [nextConsumer, hlength]
  · intro c hc
    have hsources : (w.tune source config).sources.length = w.sources.length := by
      simp [World.tune]
    rw [hsources]
    rcases List.mem_append.mp hc with hc | hc
    · exact hw.listens c hc
    · rw [List.mem_singleton.mp hc]
      exact ⟨source, hs, rfl⟩

/-- A new source gets a consumer. -/
theorem Grows.tune {own : String → Prop} {w w' : World} (h : Grows own w w') {source : Nat}
    (hle : w.sources.length ≤ source) (hlt : source < w'.sources.length) {config : ConsumerConfig}
    (hown : own config.queue) : Grows own w (w'.tune source config) := by
  have hmodified : Grows own w (w'.modifySource source fun s =>
      { s with consumer := some w'.consumers.length }) :=
    h.modifySource hle fun s => ⟨rfl, rfl⟩
  obtain ⟨more, hmore, hmores⟩ := h.consumers
  refine ⟨hmodified.kept, hmodified.fresh, ⟨more ++ [w'.nextConsumer source config], ?_, ?_⟩,
    hmodified.monitors, fun hw => (h.wired hw).tune hlt config, h.spaces, h.connections, h.journal⟩
  · rw [← List.append_assoc, ← hmore]
    rfl
  · intro c hc
    rcases List.mem_append.mp hc with hc | hc
    · exact hmores c hc
    · rw [List.mem_singleton.mp hc]
      exact ⟨hown, source, hle, rfl⟩

/-! ## Added sources -/

/-- A source was added, with the next number, and no monitor. -/
structure Adds (own : String → Prop) (w w' : World) : Prop where
  grows : Grows own w w'
  added : w.sources.length < w'.sources.length
  monitors : w'.monitors = w.monitors

theorem adds_addSource (own : String → Prop) (w : World) {s : Source}
    (hobservers : s.observers = []) (hpaused : s.paused = false) :
    Adds own w (w.addSource s).2 :=
  ⟨grows_addSource own w hobservers hpaused, by simp [addSource], rfl⟩

theorem Adds.record {own : String → Prop} {w w' : World} (h : Adds own w w') (site : String)
    (fault : Fault) : Adds own w (w'.record site fault) :=
  ⟨h.grows.same rfl rfl rfl rfl rfl rfl rfl, h.added, h.monitors⟩

/-- The new source has a consumer started, or the fault of its start is recorded. -/
theorem Adds.consume {own : String → Prop} {w w₁ w₂ : World} (h : Adds own w w₁)
    {config : ConsumerConfig} (hown : own config.queue) {site : String}
    (hconsume : w₁.consume w.sources.length config = .ok w₂ ∨
      ∃ fault, w₁.consume w.sources.length config = .error fault ∧ w₂ = w₁.record site fault) :
    Adds own w w₂ := by
  rcases consume_cases hconsume with rfl | ⟨fault, rfl⟩
  · exact ⟨h.grows.tune (Nat.le_refl _) h.added hown, by simpa [World.tune] using h.added,
      h.monitors⟩
  · exact h.record _ _

/-- The new source has its probe opened, or not. -/
theorem Adds.openProbe {own : String → Prop} {w w' : World} (h : Adds own w w')
    (routingKey : String) : Adds own w (w'.openProbe w.sources.length routingKey).2 := by
  unfold World.openProbe
  split
  · exact h
  · rename_i probes _
    have hprobes : Adds own w { w' with probes := probes.setRunning routingKey true } :=
      ⟨h.grows.same rfl rfl rfl rfl rfl rfl rfl, h.added, h.monitors⟩
    simp only []
    split
    · exact hprobes
    · exact ⟨hprobes.grows.modifySource (Nat.le_refl _) fun s => ⟨rfl, rfl⟩,
        by simpa [World.modifySource] using h.added, h.monitors⟩

/-! ## Tuned sources -/

/-- The source is raised by the changes of a variable that a filter lets pass, and hears of them
through one consumer. -/
structure IsTuned (w : World) (number : Nat) (config : ConsumerConfig) (path : String)
    (filter : Option ChangeFilter) : Prop where
  trigger : w.sources[number]?.map (·.trigger) = some (.change config.routingKey path filter)
  consumer : (w.consumers.filter (·.listensTo number)).map (·.config) = [config]

theorem listensTo_eq_false {c : Consumer} {source number : Nat} (h : c.listener = .source source)
    (hne : source ≠ number) : c.listensTo number = false := by
  unfold Consumer.listensTo
  rw [h]
  exact beq_false_of_ne hne

/-- The consumers of a source stay its only ones while the world grows. -/
theorem Grows.filter_listensTo {own : String → Prop} {w w' : World} (hg : Grows own w w')
    {number : Nat} (hlt : number < w.sources.length) :
    w'.consumers.filter (·.listensTo number) = w.consumers.filter (·.listensTo number) := by
  obtain ⟨more, hmore, hnew⟩ := hg.consumers
  have hnone : more.filter (·.listensTo number) = [] := by
    rw [List.filter_eq_nil_iff]
    intro c hc
    obtain ⟨-, source, hle, hlistener⟩ := hnew c hc
    simp [listensTo_eq_false hlistener (show source ≠ number by omega)]
  rw [hmore, List.filter_append, hnone, List.append_nil]

/-- A source that gets its first consumer has just that. -/
theorem filter_listensTo_tune {w : World} {source : Nat} (config : ConsumerConfig)
    (hnone : ∀ c ∈ w.consumers, c.listensTo source = false) :
    ((w.tune source config).consumers.filter (·.listensTo source)).map (·.config) = [config] := by
  have hold : w.consumers.filter (·.listensTo source) = [] := by
    rw [List.filter_eq_nil_iff]
    intro c hc
    simp [hnone c hc]
  have hnew : [w.nextConsumer source config].filter (·.listensTo source) =
      [w.nextConsumer source config] := by
    simp [nextConsumer, Consumer.listensTo]
  show ((w.consumers ++ [w.nextConsumer source config]).filter (·.listensTo source)).map
    (·.config) = [config]
  rw [List.filter_append, hold, hnew]
  rfl

/-- A source that is tuned stays tuned while the world grows. -/
theorem IsTuned.grows {own : String → Prop} {w w' : World} {number : Nat}
    {config : ConsumerConfig} {path : String} {filter : Option ChangeFilter}
    (h : w.IsTuned number config path filter) (hg : Grows own w w') :
    w'.IsTuned number config path filter := by
  obtain ⟨s, hs, htrigger⟩ := Option.map_eq_some_iff.mp h.trigger
  have hlt : number < w.sources.length := (List.getElem?_eq_some_iff.mp hs).1
  refine ⟨?_, ?_⟩
  · rw [hg.kept number s hs, Option.map_some, htrigger]
  · rw [hg.filter_listensTo hlt, h.consumer]

/-- A source that gets its only consumer is tuned. -/
theorem isTuned_tune {w : World} {source : Nat} {s : Source} {config : ConsumerConfig}
    {path : String} {filter : Option ChangeFilter} (hs : w.sources[source]? = some s)
    (htrigger : s.trigger = .change config.routingKey path filter)
    (hnone : ∀ c ∈ w.consumers, c.listensTo source = false) :
    (w.tune source config).IsTuned source config path filter := by
  refine ⟨?_, filter_listensTo_tune config hnone⟩
  simp [tune, hs, htrigger]

end World

end Watchtower.Live
