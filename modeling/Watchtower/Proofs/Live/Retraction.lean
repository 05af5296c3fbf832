-- Consumers that are started for new sources and stopped again with them. Each binds a queue that
-- was free, so when all of the sources are dropped the bindings are what they were before, whatever
-- was bound then. What stays are sources that nobody raises, and closed channels.
import Watchtower.Proofs.Live.Growth

namespace Watchtower.Live

/-! ## The end of an idle consumer -/

/-- A bus on which a queue was bound, and nothing was sent to its channel. -/
structure Bus.IsFresh (b : Bus) (queue : String) (channel : Nat) : Prop where
  opened : b.channels[channel]? = some { queue }
  bound : ∃ r, b.bindings.find? (·.queue == queue) = some r ∧ r.channel = channel

/-- The bus without the binding of a queue, whose channel is closed. -/
def Bus.without (b : Bus) (queue : String) (channel : Nat) : Bus :=
  { b with
    bindings := b.bindings.eraseP (·.queue == queue)
    channels := b.channels.set channel { queue, isOpen := false } }

/-- A queue that is unbound leaves its channel with nothing but its end, and then closed. -/
theorem Bus.unbind_of_isFresh {b : Bus} {queue : String} {channel : Nat}
    (h : b.IsFresh queue channel) :
    (b.unbind queue).waitingIn channel = 1 ∧
      (b.unbind queue).take channel = some (.shutdown, b.without queue channel) := by
  obtain ⟨r, hfind, rfl⟩ := h.bound
  have hlt : r.channel < b.channels.length := (List.getElem?_eq_some_iff.mp h.opened).1
  have hunbound : b.unbind queue = { b with
      bindings := b.bindings.eraseP (·.queue == queue)
      channels := b.channels.set r.channel { queue, waiting := [.shutdown] } } := by
    unfold unbind
    rw [hfind]
    simp [send, ← set_eq_modify h.opened, Channel.send]
  rw [hunbound]
  constructor
  · simp [waitingIn, hlt]
  · have hlast : (b.channels.set r.channel { queue, waiting := [.shutdown] })[r.channel]? =
        some { queue, waiting := [.shutdown] } := by simp [hlt]
    simp [take, close, hlt, without, ← set_eq_modify hlast]

theorem World.finishConsumer_of_idle {w : World} {number channel : Nat} {c : Consumer}
    (hc : w.consumers[number]? = some c) (hrunning : c.isRunning = true)
    (hchannels : c.channels = [channel]) (hfresh : w.bus.IsFresh c.config.queue channel) :
    w.finishConsumer number = { w with
      bus := w.bus.without c.config.queue channel
      consumers := w.consumers.set number { c with isRunning := false } } := by
  obtain ⟨hwaiting, htake⟩ := Bus.unbind_of_isFresh hfresh
  have hstopped : w.stopConsumer number = { w with
      bus := w.bus.unbind c.config.queue
      consumers := w.consumers.set number { c with isRunning := false } } := by
    unfold stopConsumer Consumer.stop
    simp [hc, hrunning]
  unfold finishConsumer
  simp only [hc]
  rw [hstopped, hchannels, List.foldl_cons, List.foldl_nil]
  unfold drain
  simp only [hwaiting]
  rw [foldl_range_succ]
  unfold deliverNext
  simp only [htake]
  rfl

namespace World

/-! ## Started consumers -/

/-- A channel of a consumer that is stopped. -/
def shutChannel (c : Consumer) : Channel := { queue := c.config.queue, isOpen := false }

/-- Consumers were started since, each on a free queue with a channel of its own, and the first of
them were stopped again. Only probes, sources and failures may differ besides. -/
structure HasStarted (w : World) (stopped started : List Consumer) (w' : World) : Prop where
  consumers : w'.consumers = w.consumers ++ stopped ++ started
  bindings : w'.bus.bindings = w.bus.bindings ++
    (started.zipIdx (w.bus.channels.length + stopped.length)).map fun (c, i) => c.binding i
  channels : w'.bus.channels = w.bus.channels ++ stopped.map shutChannel ++
    started.map fun c => { queue := c.config.queue }
  running : ∀ entry ∈ started.zipIdx (w.bus.channels.length + stopped.length),
    entry.1.isRunning = true ∧ entry.1.channels = [entry.2]
  halted : ∀ c ∈ stopped, c.isRunning = false
  free : ∀ c ∈ started, w.bus.isBound c.config.queue = false
  distinct : (started.map (·.config.queue)).Nodup
  schedule : w'.schedule = w.schedule
  stores : w'.stores = w.stores
  connections : w'.connections = w.connections
  spaces : w'.spaces = w.spaces
  monitors : w'.monitors = w.monitors
  journal : w'.journal = w.journal

theorem HasStarted.refl (w : World) : HasStarted w [] [] w where
  consumers := by simp
  bindings := by simp
  channels := by simp
  running := by simp
  halted := by simp
  free := by simp
  distinct := by simp
  schedule := rfl
  stores := rfl
  connections := rfl
  spaces := rfl
  monitors := rfl
  journal := rfl

theorem queues_bindings (consumers : List Consumer) (first : Nat) :
    ((consumers.zipIdx first).map fun (c, i) => c.binding i).map (·.queue) =
      consumers.map (·.config.queue) := by
  induction consumers generalizing first with
  | nil => rfl
  | cons c rest ih =>
    rw [List.zipIdx_cons, List.map_cons, List.map_cons, ih]
    rfl

theorem isBound_eq_false {b : Bus} {queue : String} :
    b.isBound queue = false ↔ queue ∉ b.bindings.map (·.queue) := by
  simp only [Bus.isBound, List.any_eq_false, List.mem_map, not_exists, not_and, beq_iff_eq]

/-- A free queue was free before, and no consumer was started on it. -/
theorem HasStarted.free_of_free {w w' : World} {started : List Consumer}
    (h : HasStarted w [] started w') {queue : String} (hfree : w'.bus.isBound queue = false) :
    w.bus.isBound queue = false ∧ queue ∉ started.map (·.config.queue) := by
  rw [isBound_eq_false] at hfree ⊢
  rw [h.bindings, List.map_append, queues_bindings, List.mem_append, not_or] at hfree
  exact hfree

/-- One more consumer is started. -/
theorem HasStarted.tune {w w' : World} {started : List Consumer} (h : HasStarted w [] started w')
    {config : ConsumerConfig} (hfree : w'.bus.isBound config.queue = false) (source : Nat) :
    HasStarted w [] (started ++ [w'.nextConsumer source config]) (w'.tune source config) := by
  obtain ⟨hold, hnew⟩ := h.free_of_free hfree
  have hlength : w'.bus.channels.length = w.bus.channels.length + started.length := by
    simp [h.channels]
  refine { h with
    consumers := ?_, bindings := ?_, channels := ?_, running := ?_, free := ?_, distinct := ?_ }
  · simp [World.tune, h.consumers]
  · simp [World.tune, h.bindings, List.zipIdx_append, hlength]
  · simp [World.tune, h.channels, nextConsumer]
  · rw [List.zipIdx_append, List.forall_mem_append]
    exact ⟨h.running, by simp [nextConsumer, hlength]⟩
  · exact List.forall_mem_append.mpr ⟨h.free, by simpa [nextConsumer] using hold⟩
  · rw [List.map_append, List.nodup_append]
    refine ⟨h.distinct, by simp, fun queue hqueue other hother => ?_⟩
    rintro rfl
    rw [List.map_singleton, List.mem_singleton] at hother
    exact hnew (hother ▸ hqueue)

/-- The first binding of the queue of a started consumer is its own. -/
theorem HasStarted.unbound {w w' : World} {stopped started : List Consumer}
    (h : HasStarted w stopped started w') {c : Consumer} (hc : c ∈ started) :
    ∀ r ∈ w.bus.bindings, ¬ (r.queue == c.config.queue) = true := by
  have hfree := isBound_eq_false.mp (h.free c hc)
  rintro r hr heq
  exact hfree (List.mem_map.mpr ⟨r, hr, beq_iff_eq.mp heq⟩)

/-- Nothing was sent to a consumer that was started and not stopped. -/
theorem HasStarted.isFresh {w w' : World} {stopped started : List Consumer} {c : Consumer}
    (h : HasStarted w stopped (c :: started) w') :
    w'.bus.IsFresh c.config.queue (w.bus.channels.length + stopped.length) := by
  constructor
  · rw [h.channels]
    simp
  · refine ⟨c.binding (w.bus.channels.length + stopped.length), ?_, rfl⟩
    rw [h.bindings, List.find?_append,
      List.find?_eq_none.mpr (h.unbound List.mem_cons_self)]
    simp [Consumer.binding]

/-- The next consumer is stopped. -/
theorem HasStarted.finish {w w' : World} {stopped started : List Consumer} {c : Consumer}
    (h : HasStarted w stopped (c :: started) w') :
    HasStarted w (stopped ++ [{ c with isRunning := false }]) started
        (w'.finishConsumer (w.consumers.length + stopped.length)) ∧
      (w'.finishConsumer (w.consumers.length + stopped.length)).sources = w'.sources := by
  obtain ⟨hrunning, hchannels⟩ := h.running (c, w.bus.channels.length + stopped.length)
    (by simp)
  have hc : w'.consumers[w.consumers.length + stopped.length]? = some c := by
    rw [h.consumers]
    simp
  rw [finishConsumer_of_idle hc hrunning hchannels h.isFresh]
  refine ⟨{ h with
    consumers := ?consumers, bindings := ?bindings, channels := ?channels, running := ?running
    halted := ?halted, free := ?free, distinct := ?distinct }, rfl⟩
  case consumers => simp [h.consumers]
  case bindings =>
    show w'.bus.bindings.eraseP (·.queue == c.config.queue) = _
    rw [h.bindings, List.eraseP_append_right _ (h.unbound List.mem_cons_self), List.zipIdx_cons,
      List.map_cons, List.eraseP_cons_of_pos (by simp [Consumer.binding]), List.length_append,
      List.length_singleton, Nat.add_assoc]
  case channels => simp [Bus.without, h.channels, shutChannel]
  case running =>
    rw [List.length_append, List.length_singleton, ← Nat.add_assoc]
    exact fun entry hentry => h.running entry (by simp [hentry])
  case halted => exact List.forall_mem_append.mpr ⟨h.halted, by simp⟩
  case free => exact fun other hother => h.free other (List.mem_cons_of_mem _ hother)
  case distinct => exact (List.nodup_cons.mp h.distinct).2

/-! ## Added sources -/

theorem modify_snoc {α : Type} (items : List α) (a : α) (f : α → α) :
    (items ++ [a]).modify items.length f = items ++ [f a] := by
  simp [List.modify_eq_take_drop]

/-- Sources were added since, and the consumers that were started are theirs, in their order. -/
structure HasAdded (w : World) (added : List Source) (started : List Consumer) (w' : World) :
    Prop where
  sources : w'.sources = w.sources ++ added
  numbers : added.filterMap (·.consumer) = List.range' w.consumers.length started.length
  started : HasStarted w [] started w'

theorem HasAdded.refl (w : World) : HasAdded w [] [] w :=
  ⟨by simp, rfl, .refl w⟩

section

variable {w w' : World} {added : List Source} {started : List Consumer}

theorem HasAdded.addSource (h : HasAdded w added started w') {s : Source}
    (hs : s.consumer = none) : HasAdded w (added ++ [s]) started (w'.addSource s).2 := by
  refine ⟨?_, ?_, { h.started with }⟩
  · simp [World.addSource, h.sources]
  · simp [h.numbers, hs]

theorem HasAdded.record (h : HasAdded w added started w') (site : String) (fault : Fault) :
    HasAdded w added started (w'.record site fault) :=
  ⟨h.sources, h.numbers, { h.started with }⟩

/-- The last source is changed, but for its consumer. -/
theorem HasAdded.modifySource {s : Source} (h : HasAdded w (added ++ [s]) started w') {number : Nat}
    (hnumber : number = w.sources.length + added.length) {f : Source → Source}
    (hf : (f s).consumer = s.consumer) :
    HasAdded w (added ++ [f s]) started (w'.modifySource number f) := by
  refine ⟨?_, ?_, { h.started with }⟩
  · show w'.sources.modify number f = _
    rw [h.sources, ← List.append_assoc, hnumber, ← List.length_append, modify_snoc,
      List.append_assoc]
  · rw [← h.numbers]
    simp [List.filterMap_cons, hf]

theorem HasAdded.openProbe {s : Source} (h : HasAdded w (added ++ [s]) started w') {number : Nat}
    (hnumber : number = w.sources.length + added.length) (routingKey : String) :
    ∃ s', s'.consumer = s.consumer ∧
      HasAdded w (added ++ [s']) started (w'.openProbe number routingKey).2 := by
  unfold World.openProbe
  split
  · exact ⟨s, rfl, h⟩
  · rename_i probes _
    have hprobes : HasAdded w (added ++ [s]) started
        { w' with probes := probes.setRunning routingKey true } :=
      ⟨h.sources, h.numbers, { h.started with }⟩
    simp only []
    split
    · exact ⟨s, rfl, hprobes⟩
    · exact ⟨{ s with probe := some routingKey }, rfl,
        hprobes.modifySource (f := fun s => { s with probe := some routingKey }) hnumber rfl⟩

/-- The last source gets its consumer, or the fault of the start is recorded. -/
theorem HasAdded.consume {s : Source} (h : HasAdded w (added ++ [s]) started w')
    (hs : s.consumer = none) {number : Nat} (hnumber : number = w.sources.length + added.length)
    {config : ConsumerConfig} {site : String} {w'' : World}
    (hconsume : w'.consume number config = .ok w'' ∨
      ∃ fault, w'.consume number config = .error fault ∧ w'' = w'.record site fault) :
    ∃ added' started', HasAdded w added' started' w'' := by
  rcases hconsume with hok | ⟨fault, -, rfl⟩
  · rw [consume_eq] at hok
    split at hok
    · cases hok
    · rename_i hfree
      split at hok
      · cases hok
      · cases hok
        refine ⟨added ++ [{ s with consumer := some w'.consumers.length }],
          started ++ [w'.nextConsumer number config], ?_, ?_,
          h.started.tune (by simpa using hfree) number⟩
        · show w'.sources.modify number _ = _
          rw [h.sources, ← List.append_assoc, hnumber, ← List.length_append, modify_snoc,
            List.append_assoc]
        · have hnumbers := h.numbers
          rw [List.filterMap_append, List.filterMap_cons_none hs, List.filterMap_nil,
            List.append_nil] at hnumbers
          rw [List.filterMap_append, hnumbers, List.length_append, List.length_singleton,
            List.range'_concat, h.started.consumers]
          simp
  · exact ⟨_, _, h.record site fault⟩

end

/-- When all added sources are dropped, all consumers that were started are stopped. -/
theorem HasStarted.dropSources {w w' : World} {stopped started : List Consumer}
    {before added : List Source} (h : HasStarted w stopped started w')
    (hsources : w'.sources = before ++ added)
    (hnumbers : added.filterMap (·.consumer) =
      List.range' (w.consumers.length + stopped.length) started.length) :
    ∃ stopped', HasStarted w stopped' []
      ((added.zipIdx before.length).foldl (fun w (_, number) => w.dropSource number) w') := by
  induction added generalizing before stopped started w' with
  | nil =>
    have hnone : started = [] := by
      rw [← List.length_eq_zero_iff, ← List.range'_eq_nil_iff]
      exact hnumbers.symm
    exact ⟨stopped, hnone ▸ h⟩
  | cons s rest ih =>
    have hs : w'.sources[before.length]? = some s := by simp [hsources]
    rw [List.zipIdx_cons, List.foldl_cons]
    have hlength : before.length + 1 = (before ++ [s]).length := by simp
    rw [hlength]
    cases hconsumer : s.consumer with
    | none =>
      have hdrop : w'.dropSource before.length = w' := by simp [dropSource, hs, hconsumer]
      simp only [hdrop]
      rw [List.filterMap_cons_none hconsumer] at hnumbers
      exact ih h (by simp [hsources]) hnumbers
    | some number =>
      have hdrop : w'.dropSource before.length = w'.finishConsumer number := by
        simp [dropSource, hs, hconsumer]
      rw [List.filterMap_cons_some hconsumer] at hnumbers
      cases started with
      | nil => cases hnumbers
      | cons c started =>
        rw [List.length_cons, List.range'_succ, List.cons.injEq] at hnumbers
        obtain ⟨rfl, hrest⟩ := hnumbers
        obtain ⟨hfinished, hsame⟩ := h.finish
        simp only [hdrop]
        refine ih hfinished (by simp [hsame, hsources]) ?_
        rw [hrest, List.length_append, List.length_singleton, Nat.add_assoc]

end World

end Watchtower.Live
