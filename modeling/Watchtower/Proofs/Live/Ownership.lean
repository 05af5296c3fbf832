-- Who holds which binding. Consumers with queues of the same name take turns on a bus, and a queue
-- is unbound by its name alone; still each consumer unbinds only what it bound itself, since it runs
-- exactly as long as its own binding is there.
import Watchtower.Proofs.Live.Channels
import Watchtower.Proofs.Outcome

namespace Watchtower.Live

/-! ## Operations -/

/-- An operation on a consumer, given by its number. -/
inductive Operation where
  | start (consumer : Nat)
  | stop (consumer : Nat)
  /-- Whoever holds the consumer drops it. -/
  | drop (consumer : Nat)

def Operation.consumer : Operation → Nat
  | .start consumer => consumer
  | .stop consumer => consumer
  | .drop consumer => consumer

/-- The operations wait for the thread of the consumer to end. -/
def World.operate (w : World) : Operation → Except Fault World
  | .start consumer => w.startConsumer consumer
  | .stop consumer => .ok (w.finishConsumer consumer)
  | .drop consumer => .ok (w.finishConsumer consumer)

/-- A world, and which consumer made which binding. -/
structure Tenancy where
  world : World
  made : List (Nat × Binding) := []

namespace Tenancy

/-- Bindings that are there after an operation and were not before are the consumer's. -/
def step (t : Tenancy) (op : Operation) : Tenancy :=
  match t.world.operate op with
  | .ok w => {
      world := w
      made := t.made ++
        (w.bus.bindings.filter (· ∉ t.world.bus.bindings)).map (op.consumer, ·) }
  | .error _ => t

def run (w : World) (ops : List Operation) : Tenancy := ops.foldl step { world := w }

end Tenancy

/-! ## Channels without payloads -/

/-- The bus is as before, but for envelopes that were taken out. -/
structure Bus.Wanes (b b' : Bus) : Prop where
  bindings : b'.bindings = b.bindings
  length : b'.channels.length = b.channels.length
  waiting : ∀ i, ∀ e ∈ b'.waitingAt i, e ∈ b.waitingAt i

namespace Bus.Wanes

variable {b₁ b₂ b₃ : Bus}

theorem refl (b : Bus) : b.Wanes b := ⟨rfl, rfl, fun _ _ h => h⟩

theorem trans (h : b₁.Wanes b₂) (h' : b₂.Wanes b₃) : b₁.Wanes b₃ where
  bindings := h'.bindings.trans h.bindings
  length := h'.length.trans h.length
  waiting i e he := h.waiting i e (h'.waiting i e he)

end Bus.Wanes

/-- Where no payload waits, the thread of a channel calls nobody. -/
theorem World.deliverNext_of_quiet {w : World} {channel : Nat}
    (hquiet : ∀ payload, .deliver payload ∉ w.bus.waitingAt channel) :
    ∃ b, w.deliverNext channel = { w with bus := b } ∧ w.bus.Wanes b := by
  unfold deliverNext
  split
  · rename_i payload b htake
    exact absurd (Bus.taken_of_take htake).mem (hquiet payload)
  · rename_i e b hnot htake
    have htaken := Bus.taken_of_take htake
    exact ⟨b, rfl, htaken.bindings, htaken.length, fun i e he => htaken.mem_waiting he⟩
  · exact ⟨w.bus, rfl, .refl _⟩

/-- So it is for steps of several such channels. -/
theorem World.foldl_of_quiet {α : Type} {f : World → α → World} {p : Bus → α → Prop}
    (hf : ∀ w a, p w.bus a → ∃ b, f w a = { w with bus := b } ∧ w.bus.Wanes b)
    (hp : ∀ b b' a, p b a → b.Wanes b' → p b' a) (items : List α) (w : World)
    (h : ∀ a ∈ items, p w.bus a) :
    ∃ b, items.foldl f w = { w with bus := b } ∧ w.bus.Wanes b := by
  induction items generalizing w with
  | nil => exact ⟨w.bus, rfl, .refl _⟩
  | cons a rest ih =>
    obtain ⟨b, heq, hwanes⟩ := hf w a (h a List.mem_cons_self)
    obtain ⟨b', hrest, hwanes'⟩ := ih { w with bus := b }
      fun a' ha' => hp _ _ a' (h a' (List.mem_cons_of_mem _ ha')) hwanes
    refine ⟨b', ?_, hwanes.trans hwanes'⟩
    rw [List.foldl_cons, heq, hrest]

theorem World.drain_of_quiet {w : World} {channel : Nat}
    (hquiet : ∀ payload, .deliver payload ∉ w.bus.waitingAt channel) :
    ∃ b, w.drain channel = { w with bus := b } ∧ w.bus.Wanes b :=
  foldl_of_quiet (p := fun b _ => ∀ payload, .deliver payload ∉ b.waitingAt channel)
    (fun _ _ hw => deliverNext_of_quiet hw)
    (fun _ _ _ hb hwanes payload hmem => hb payload (hwanes.waiting _ _ hmem)) _ w
    fun _ _ => hquiet

/-! ## What operations do -/

/-- The bus after a consumer was stopped: of the bindings only one of its queue may be gone, and no
payload has come to a channel. -/
structure Left (c : Consumer) (b b' : Bus) : Prop where
  bindings : b'.bindings =
    if c.isRunning then b.bindings.filter (·.queue != c.config.queue) else b.bindings
  length : b'.channels.length = b.channels.length
  payloads : ∀ i payload, .deliver payload ∈ b'.waitingAt i → .deliver payload ∈ b.waitingAt i

theorem Left.mem_iff {c : Consumer} {b b' : Bus} (h : Left c b b') (r : Binding) :
    r ∈ b'.bindings ↔ r ∈ b.bindings ∧ (c.isRunning = true → r.queue ≠ c.config.queue) := by
  rw [h.bindings]
  cases c.isRunning <;> simp

theorem Left.sublist {c : Consumer} {b b' : Bus} (h : Left c b b') :
    b'.bindings.Sublist b.bindings := by
  rw [h.bindings]
  split
  · exact List.filter_sublist
  · exact .refl _

section

variable {w : World} {number : Nat} {c : Consumer}

/-- A consumer starts unless its queue is bound; one that runs stays as it is. -/
theorem World.startConsumer_eq (hc : w.consumers[number]? = some c) :
    w.startConsumer number =
      if c.isRunning then .ok w
      else if w.bus.isBound c.config.queue then
        .error (.consumer c.config.queue "queue is already bound")
      else .ok { w with
        bus := { w.bus with
          bindings := w.bus.bindings ++ [c.binding w.bus.channels.length]
          channels := w.bus.channels ++ [{ queue := c.config.queue }] }
        consumers := w.consumers.set number
          { c with isRunning := true, channels := w.bus.channels.length :: c.channels } } := by
  obtain ⟨hlt, hget⟩ := List.getElem?_eq_some_iff.mp hc
  have hsame : w.consumers.set number c = w.consumers := hget ▸ List.set_getElem_self hlt
  unfold startConsumer Consumer.start Bus.bind
  simp only [hc]
  by_cases hrunning : c.isRunning = true
  · simp only [hrunning, if_true, bind, Except.bind, pure, Except.pure, hsame]
  · by_cases hbound : w.bus.isBound c.config.queue = true
    · simp only [hrunning, hbound, if_true]
      rfl
    · simp only [hrunning, hbound]
      rfl

/-- Who unbinds the queue of a consumer that runs leaves the bus as a stop does. -/
theorem left_unbind (hrunning : c.isRunning = true) {b : Bus}
    (hqueues : (b.bindings.map (·.queue)).Nodup) : Left c b (b.unbind c.config.queue) := by
  refine ⟨?bindings, ?length, ?payloads⟩
  case bindings =>
    rw [if_pos hrunning]
    exact Bus.bindings_unbind hqueues _
  case length =>
    cases hfind : b.bindings.find? (·.queue == c.config.queue) with
    | none => rw [Bus.unbind_of_none hfind]
    | some r => exact (Bus.sent_unbind hfind).length
  case payloads =>
    intro i payload hmem
    cases hfind : b.bindings.find? (·.queue == c.config.queue) with
    | none => rwa [Bus.unbind_of_none hfind] at hmem
    | some r =>
      rcases (Bus.sent_unbind hfind).mem_waiting hmem with hold | ⟨hnew, -⟩
      · exact hold
      · cases hnew

/-- A consumer that is stopped runs no more, and of the bindings only one of its queue may go. -/
theorem World.stopConsumer_unbinds (hc : w.consumers[number]? = some c)
    (hqueues : (w.bus.bindings.map (·.queue)).Nodup) :
    ∃ b, w.stopConsumer number = { w with
        bus := b
        consumers := w.consumers.set number { c with isRunning := false } } ∧ Left c w.bus b := by
  unfold stopConsumer Consumer.stop
  simp only [hc]
  cases hrunning : c.isRunning with
  | false =>
    have hsame : { c with isRunning := false } = c := by rw [← hrunning]
    refine ⟨w.bus, ?_, by simp [hrunning], rfl, fun _ _ h => h⟩
    rw [hsame]
    rfl
  | true => exact ⟨w.bus.unbind c.config.queue, rfl, left_unbind hrunning hqueues⟩

/-- It is the same when its thread has ended, if no payload waits for it. -/
theorem World.finishConsumer_eq (hc : w.consumers[number]? = some c)
    (hqueues : (w.bus.bindings.map (·.queue)).Nodup)
    (hquiet : ∀ channel ∈ c.channels, ∀ payload, .deliver payload ∉ w.bus.waitingAt channel) :
    ∃ b, w.finishConsumer number = { w with
        bus := b
        consumers := w.consumers.set number { c with isRunning := false } } ∧ Left c w.bus b := by
  obtain ⟨b₁, hstopped, hleft⟩ := stopConsumer_unbinds hc hqueues
  have hstill : ∀ channel ∈ c.channels, ∀ payload,
      .deliver payload ∉ (w.stopConsumer number).bus.waitingAt channel := by
    rw [hstopped]
    exact fun channel hchannel payload hmem =>
      hquiet channel hchannel payload (hleft.payloads _ _ hmem)
  obtain ⟨b, hdrained, hwanes⟩ := foldl_of_quiet
    (p := fun b channel => ∀ payload, .deliver payload ∉ b.waitingAt channel)
    (fun _ _ hw => drain_of_quiet hw)
    (fun _ _ _ hb hwanes payload hmem => hb payload (hwanes.waiting _ _ hmem)) c.channels _ hstill
  rw [hstopped] at hdrained hwanes
  refine ⟨b, ?_, hwanes.bindings.trans hleft.bindings, hwanes.length.trans hleft.length, ?_⟩
  · unfold finishConsumer
    simp only [hc]
    rw [hstopped, hdrained]
  · exact fun i payload hmem => hleft.payloads i payload (hwanes.waiting i _ hmem)

end

/-! ## What operations keep -/

namespace Tenancy

/-- What holds after any operations. -/
structure IsSettled (t : Tenancy) : Prop where
  queues : (t.world.bus.bindings.map (·.queue)).Nodup
  range : ∀ r ∈ t.world.bus.bindings, r.channel < t.world.bus.channels.length
  /-- A binding that was made has a number of its own, also when it is gone. -/
  past : ∀ n r, (n, r) ∈ t.made → r.channel < t.world.bus.channels.length
  unique : ∀ n m r, (n, r) ∈ t.made → (m, r) ∈ t.made → n = m
  configured : ∀ n r, (n, r) ∈ t.made →
    ∃ c channel, t.world.consumers[n]? = some c ∧ r = c.binding channel
  running : ∀ n c, t.world.consumers[n]? = some c →
    (c.isRunning = true ↔ ∃ r ∈ t.world.bus.bindings, (n, r) ∈ t.made)
  quiet : ∀ c ∈ t.world.consumers, ∀ channel ∈ c.channels, ∀ payload,
    .deliver payload ∉ t.world.bus.waitingAt channel

/-- A consumer has bound its queue. -/
def enter (t : Tenancy) (n : Nat) (c : Consumer) : Tenancy where
  world := { t.world with
    bus := { t.world.bus with
      bindings := t.world.bus.bindings ++ [c.binding t.world.bus.channels.length]
      channels := t.world.bus.channels ++ [{ queue := c.config.queue }] }
    consumers := t.world.consumers.set n
      { c with isRunning := true, channels := t.world.bus.channels.length :: c.channels } }
  made := t.made ++ [(n, c.binding t.world.bus.channels.length)]

/-- A consumer was stopped, and the bus is this one. -/
def leave (t : Tenancy) (n : Nat) (c : Consumer) (b : Bus) : Tenancy where
  world := { t.world with
    bus := b
    consumers := t.world.consumers.set n { c with isRunning := false } }
  made := t.made

variable {t : Tenancy} {w : World}

theorem isSettled_start (hqueues : (w.bus.bindings.map (·.queue)).Nodup)
    (hrange : ∀ r ∈ w.bus.bindings, r.channel < w.bus.channels.length)
    (hfresh : ∀ c ∈ w.consumers, c.isRunning = false ∧ c.channels = []) :
    IsSettled { world := w } where
  queues := hqueues
  range := hrange
  past n r h := by cases h
  unique n m r h := by cases h
  configured n r h := by cases h
  running n c hc := by
    simp [(hfresh c (List.mem_of_getElem? hc)).1]
  quiet c hc channel hchannel := by
    rw [(hfresh c hc).2] at hchannel
    cases hchannel

/-- The queue of a consumer that does not run is bound by another one, or free. -/
theorem IsSettled.isBound_iff (h : t.IsSettled) {n : Nat} {c : Consumer}
    (hc : t.world.consumers[n]? = some c) (hstopped : c.isRunning = false) :
    t.world.bus.isBound c.config.queue = true ↔
      ∃ r ∈ t.world.bus.bindings, r.queue = c.config.queue ∧ (n, r) ∉ t.made := by
  unfold Bus.isBound
  simp only [List.any_eq_true, beq_iff_eq]
  refine exists_congr fun r => and_congr_right fun hr => ?_
  refine (and_iff_left ?_).symm
  intro hmade
  have hrunning := (h.running n c hc).mpr ⟨r, hr, hmade⟩
  rw [hstopped] at hrunning
  cases hrunning

/-! ### A binding is made -/

/-- The binding of a new channel was made by nobody. -/
theorem IsSettled.not_made (h : t.IsSettled) (n : Nat) (c : Consumer) :
    (n, c.binding t.world.bus.channels.length) ∉ t.made :=
  fun hmade => absurd (h.past _ _ hmade) (Nat.lt_irrefl _)

theorem mem_made_enter {n m : Nat} {c : Consumer} {r : Binding} :
    (m, r) ∈ (t.enter n c).made ↔
      (m, r) ∈ t.made ∨ m = n ∧ r = c.binding t.world.bus.channels.length := by
  simp [Tenancy.enter]

theorem mem_bindings_enter {n : Nat} {c : Consumer} {r : Binding} :
    r ∈ (t.enter n c).world.bus.bindings ↔
      r ∈ t.world.bus.bindings ∨ r = c.binding t.world.bus.channels.length := by
  simp [Tenancy.enter]

theorem length_channels_enter (t : Tenancy) (n : Nat) (c : Consumer) :
    (t.enter n c).world.bus.channels.length = t.world.bus.channels.length + 1 := by
  simp [Tenancy.enter]

theorem enter_consumer_of_ne {n m : Nat} (c : Consumer) (hm : n ≠ m) :
    (t.enter n c).world.consumers[m]? = t.world.consumers[m]? :=
  List.getElem?_set_ne hm

theorem enter_consumer_self {n : Nat} {c : Consumer} (hc : t.world.consumers[n]? = some c) :
    (t.enter n c).world.consumers[n]? = some
      { c with isRunning := true, channels := t.world.bus.channels.length :: c.channels } :=
  List.getElem?_set_self (List.getElem?_eq_some_iff.mp hc).1

/-- A free queue gets one binding. -/
theorem IsSettled.queues_enter (h : t.IsSettled) (n : Nat) {c : Consumer}
    (hfree : t.world.bus.isBound c.config.queue = false) :
    ((t.enter n c).world.bus.bindings.map (·.queue)).Nodup := by
  simp only [Tenancy.enter, List.map_append, List.map_cons, List.map_nil]
  refine List.nodup_append.mpr ⟨h.queues, List.nodup_singleton _, ?_⟩
  intro name hname other hother heq
  obtain ⟨r, hr, rfl⟩ := List.mem_map.mp hname
  rw [List.mem_singleton.mp hother] at heq
  exact List.any_eq_false.mp hfree r hr (beq_iff_eq.mpr heq)

/-- Who made a binding stays the only one. -/
theorem IsSettled.unique_enter (h : t.IsSettled) {n m m' : Nat} {c : Consumer} {r : Binding}
    (hmade : (m, r) ∈ (t.enter n c).made) (hmade' : (m', r) ∈ (t.enter n c).made) : m = m' := by
  rcases mem_made_enter.mp hmade with hold | ⟨rfl, rfl⟩
  · rcases mem_made_enter.mp hmade' with hold' | ⟨rfl, rfl⟩
    · exact h.unique m m' r hold hold'
    · exact absurd hold (h.not_made m c)
  · rcases mem_made_enter.mp hmade' with hold' | ⟨rfl, -⟩
    · exact absurd hold' (h.not_made m' c)
    · rfl

/-- What was made has the form of its consumer, also after that has changed its state. -/
theorem IsSettled.configured_enter (h : t.IsSettled) {n m : Nat} {c : Consumer} {r : Binding}
    (hc : t.world.consumers[n]? = some c) (hmade : (m, r) ∈ (t.enter n c).made) :
    ∃ c' channel, (t.enter n c).world.consumers[m]? = some c' ∧ r = c'.binding channel := by
  rcases mem_made_enter.mp hmade with hold | ⟨rfl, rfl⟩
  · obtain ⟨c', channel, hc', rfl⟩ := h.configured m r hold
    by_cases hm : n = m
    · subst hm
      cases hc.symm.trans hc'
      exact ⟨_, channel, enter_consumer_self hc, rfl⟩
    · exact ⟨c', channel, (enter_consumer_of_ne c hm).trans hc', rfl⟩
  · exact ⟨_, _, enter_consumer_self hc, rfl⟩

/-- The consumer that has made a binding runs, and the others do if they did. -/
theorem IsSettled.running_enter (h : t.IsSettled) {n m : Nat} {c c' : Consumer}
    (hc : t.world.consumers[n]? = some c)
    (hc' : (t.enter n c).world.consumers[m]? = some c') :
    c'.isRunning = true ↔
      ∃ r ∈ (t.enter n c).world.bus.bindings, (m, r) ∈ (t.enter n c).made := by
  by_cases hm : n = m
  · subst hm
    cases (enter_consumer_self hc).symm.trans hc'
    simp only [true_iff]
    exact ⟨_, mem_bindings_enter.mpr (.inr rfl), mem_made_enter.mpr (.inr ⟨rfl, rfl⟩)⟩
  · rw [h.running m c' ((enter_consumer_of_ne c hm).symm.trans hc')]
    constructor
    · rintro ⟨r, hr, hmade⟩
      exact ⟨r, mem_bindings_enter.mpr (.inl hr), mem_made_enter.mpr (.inl hmade)⟩
    · rintro ⟨r, hr, hmade⟩
      rcases mem_made_enter.mp hmade with hold | ⟨rfl, -⟩
      · rcases mem_bindings_enter.mp hr with hr | rfl
        · exact ⟨r, hr, hold⟩
        · exact absurd hold (h.not_made m c)
      · exact absurd rfl hm

/-- Nothing waits in a new channel. -/
theorem IsSettled.quiet_enter (h : t.IsSettled) {n : Nat} {c c' : Consumer}
    (hc : t.world.consumers[n]? = some c) (hfree : t.world.bus.isBound c.config.queue = false)
    (hc' : c' ∈ (t.enter n c).world.consumers) {channel : Nat} (hchannel : channel ∈ c'.channels)
    (payload : Payload) : .deliver payload ∉ (t.enter n c).world.bus.waitingAt channel := by
  have hbind : t.world.bus.bind c.config.exchange c.config.routingKey c.config.queue =
      .ok (t.world.bus.channels.length, (t.enter n c).world.bus) := by
    unfold Bus.bind
    rw [hfree]
    rfl
  rw [Bus.waitingAt_bind hbind]
  rcases List.mem_or_eq_of_mem_set hc' with hold | rfl
  · exact h.quiet c' hold channel hchannel payload
  · rcases List.mem_cons.mp hchannel with rfl | hchannel
    · unfold Bus.waitingAt
      rw [List.getElem?_eq_none (Nat.le_refl _)]
      exact List.not_mem_nil
    · exact h.quiet c (List.mem_of_getElem? hc) channel hchannel payload

/-- A consumer of a free queue makes a binding of its own, and its channel is new. -/
theorem IsSettled.enter (h : t.IsSettled) {n : Nat} {c : Consumer}
    (hc : t.world.consumers[n]? = some c) (hfree : t.world.bus.isBound c.config.queue = false) :
    (t.enter n c).IsSettled where
  queues := h.queues_enter n hfree
  range r hr := by
    rw [length_channels_enter]
    rcases mem_bindings_enter.mp hr with hold | rfl
    · exact Nat.lt_succ_of_lt (h.range r hold)
    · exact Nat.lt_succ_self _
  past m r hmade := by
    rw [length_channels_enter]
    rcases mem_made_enter.mp hmade with hold | ⟨-, rfl⟩
    · exact Nat.lt_succ_of_lt (h.past m r hold)
    · exact Nat.lt_succ_self _
  unique _ _ _ hmade hmade' := h.unique_enter hmade hmade'
  configured _ _ hmade := h.configured_enter hc hmade
  running _ _ hc' := h.running_enter hc hc'
  quiet _ hc' _ hchannel payload := h.quiet_enter hc hfree hc' hchannel payload

/-! ### A binding is taken away -/

/-- The one binding of the queue of a consumer that runs is its own, and nobody else's. -/
theorem IsSettled.own (h : t.IsSettled) {n : Nat} {c : Consumer}
    (hc : t.world.consumers[n]? = some c) (hrunning : c.isRunning = true) {r : Binding}
    (hr : r ∈ t.world.bus.bindings) (hqueue : r.queue = c.config.queue) :
    (n, r) ∈ t.made ∧ ∀ m, (m, r) ∈ t.made → m = n := by
  obtain ⟨own, hown, hmade⟩ := (h.running n c hc).mp hrunning
  obtain ⟨c', channel, hc', rfl⟩ := h.configured n own hmade
  cases hc.symm.trans hc'
  have hsame : r = c.binding channel := List.inj_on_of_nodup_map h.queues hr hown hqueue
  subst hsame
  exact ⟨hmade, fun m hother => h.unique m n _ hother hmade⟩

/-- A consumer that is stopped loses its own binding only. -/
theorem IsSettled.leave (h : t.IsSettled) {n : Nat} {c : Consumer}
    (hc : t.world.consumers[n]? = some c) {b : Bus} (hleft : Left c t.world.bus b) :
    (t.leave n c b).IsSettled := by
  have hlt := (List.getElem?_eq_some_iff.mp hc).1
  refine ⟨h.queues.sublist (hleft.sublist.map _), ?range, ?past, h.unique, ?configured, ?running,
    ?quiet⟩
  case range =>
    exact fun r hr => hleft.length.symm ▸ h.range r (hleft.sublist.subset hr)
  case past =>
    exact fun m r hmade => hleft.length.symm ▸ h.past m r hmade
  case configured =>
    intro m r hmade
    obtain ⟨c', channel, hc', rfl⟩ := h.configured m r hmade
    by_cases hm : n = m
    · subst hm
      cases hc.symm.trans hc'
      exact ⟨_, channel, List.getElem?_set_self hlt, rfl⟩
    · exact ⟨c', channel, (List.getElem?_set_ne hm).trans hc', rfl⟩
  case running =>
    intro m c' hc'
    by_cases hm : n = m
    · subst hm
      cases (List.getElem?_set_self hlt).symm.trans hc'
      simp only [Bool.false_eq_true, false_iff]
      rintro ⟨r, hr, hmade⟩
      obtain ⟨hold, hother⟩ := (hleft.mem_iff r).mp hr
      obtain ⟨c', channel, hc', rfl⟩ := h.configured n r hmade
      cases hc.symm.trans hc'
      exact hother ((h.running n c hc).mpr ⟨_, hold, hmade⟩) rfl
    · rw [h.running m c' ((List.getElem?_set_ne hm).symm.trans hc')]
      constructor
      · rintro ⟨r, hr, hmade⟩
        refine ⟨r, (hleft.mem_iff r).mpr ⟨hr, ?_⟩, hmade⟩
        intro hrunning hqueue
        exact hm ((h.own hc hrunning hr hqueue).2 m hmade).symm
      · rintro ⟨r, hr, hmade⟩
        exact ⟨r, ((hleft.mem_iff r).mp hr).1, hmade⟩
  case quiet =>
    intro c' hc' channel hchannel payload hwaits
    have hbefore := hleft.payloads channel payload hwaits
    rcases List.mem_or_eq_of_mem_set hc' with hold | rfl
    · exact h.quiet c' hold channel hchannel payload hbefore
    · exact h.quiet c (List.mem_of_getElem? hc) channel hchannel payload hbefore

/-! ### One operation -/

/-- Where no binding is new, nobody made one. -/
theorem made_append {bindings bindings' : List Binding} (h : bindings' ⊆ bindings) (n : Nat) :
    t.made ++ (bindings'.filter (· ∉ bindings)).map (n, ·) = t.made := by
  have hnone : bindings'.filter (· ∉ bindings) = [] := by
    rw [List.filter_eq_nil_iff]
    intro r hr
    simpa using h hr
  rw [hnone]
  simp

theorem step_of_none {op : Operation} (h : t.world.consumers[op.consumer]? = none) :
    t.step op = t := by
  have hsame : t.world.operate op = .ok t.world := by
    cases op <;>
      simp_all only [Operation.consumer, World.operate, World.startConsumer, World.finishConsumer]
  unfold step
  rw [hsame]
  simp only [made_append (List.Subset.refl _)]

theorem IsSettled.step_start (h : t.IsSettled) {n : Nat} {c : Consumer}
    (hc : t.world.consumers[n]? = some c) :
    t.step (.start n) =
      if c.isRunning || t.world.bus.isBound c.config.queue then t else t.enter n c := by
  simp only [Tenancy.step, World.operate]
  rw [World.startConsumer_eq hc]
  cases c.isRunning with
  | true => simp only [if_true, Bool.true_or, made_append (List.Subset.refl _)]
  | false =>
    cases t.world.bus.isBound c.config.queue with
    | true => rfl
    | false =>
      have hnew : c.binding t.world.bus.channels.length ∉ t.world.bus.bindings := by
        intro hmem
        exact absurd (h.range _ hmem) (Nat.lt_irrefl _)
      have hmade : t.made ++
          ((t.world.bus.bindings ++ [c.binding t.world.bus.channels.length]).filter
            (· ∉ t.world.bus.bindings)).map (n, ·) =
          t.made ++ [(n, c.binding t.world.bus.channels.length)] := by
        rw [List.filter_append, List.map_append, ← List.append_assoc,
          made_append (List.Subset.refl _), List.filter_cons_of_pos (by simpa using hnew)]
        rfl
      exact congrArg (Tenancy.mk _) hmade

/-- A stop and a drop are the same. -/
theorem IsSettled.step_finish (h : t.IsSettled) {n : Nat} {c : Consumer}
    (hc : t.world.consumers[n]? = some c) : ∃ b, Left c t.world.bus b ∧
      t.step (.stop n) = t.leave n c b ∧ t.step (.drop n) = t.leave n c b := by
  obtain ⟨b, heq, hleft⟩ :=
    World.finishConsumer_eq hc h.queues (h.quiet c (List.mem_of_getElem? hc))
  have hmade := made_append (t := t) hleft.sublist.subset n
  refine ⟨b, hleft, ?_, ?_⟩
  · unfold step World.operate
    simp only [heq]
    exact congrArg (Tenancy.mk _) hmade
  · unfold step World.operate
    simp only [heq]
    exact congrArg (Tenancy.mk _) hmade

theorem IsSettled.step (h : t.IsSettled) (op : Operation) : (t.step op).IsSettled := by
  cases hc : t.world.consumers[op.consumer]? with
  | none => rwa [step_of_none hc]
  | some c =>
    cases op with
    | start n =>
      rw [h.step_start (n := n) hc]
      split
      · exact h
      · rename_i hnot
        rw [Bool.not_eq_true, Bool.or_eq_false_iff] at hnot
        exact h.enter hc hnot.2
    | stop n =>
      obtain ⟨b, hleft, heq, -⟩ := h.step_finish (n := n) hc
      rw [heq]
      exact h.leave hc hleft
    | drop n =>
      obtain ⟨b, hleft, -, heq⟩ := h.step_finish (n := n) hc
      rw [heq]
      exact h.leave hc hleft

theorem IsSettled.foldl_step (h : t.IsSettled) (ops : List Operation) :
    (ops.foldl Tenancy.step t).IsSettled := by
  induction ops generalizing t with
  | nil => exact h
  | cons op rest ih => exact ih (h.step op)

/-- A binding that goes with an operation is the consumer's own. -/
theorem IsSettled.own_of_gone (h : t.IsSettled) (op : Operation) {r : Binding}
    (hr : r ∈ t.world.bus.bindings) (hgone : r ∉ (t.step op).world.bus.bindings) :
    (op.consumer, r) ∈ t.made ∧ ∀ n, (n, r) ∈ t.made → n = op.consumer := by
  have hleaves : ∀ c b, t.world.consumers[op.consumer]? = some c → Left c t.world.bus b →
      t.step op = t.leave op.consumer c b →
      (op.consumer, r) ∈ t.made ∧ ∀ n, (n, r) ∈ t.made → n = op.consumer := by
    intro c b hc hleft heq
    rw [heq] at hgone
    have hboth : ¬ (c.isRunning = true → r.queue ≠ c.config.queue) :=
      fun hkeeps => hgone ((hleft.mem_iff r).mpr ⟨hr, hkeeps⟩)
    push Not at hboth
    exact h.own hc hboth.1 hr hboth.2
  cases hc : t.world.consumers[op.consumer]? with
  | none =>
    rw [step_of_none hc] at hgone
    exact absurd hr hgone
  | some c =>
    cases op with
    | start n =>
      rw [h.step_start (n := n) hc] at hgone
      split at hgone
      · exact absurd hr hgone
      · exact absurd (List.mem_append_left _ hr) hgone
    | stop n =>
      obtain ⟨b, hleft, heq, -⟩ := h.step_finish hc
      exact hleaves c b hc hleft heq
    | drop n =>
      obtain ⟨b, hleft, -, heq⟩ := h.step_finish hc
      exact hleaves c b hc hleft heq

end Tenancy

/-- Consumers of a world, some perhaps with queues of the same name, are started, stopped and
dropped in any order. After each operation a consumer runs exactly when a binding that it made is
there; a start fails exactly when the consumer does not run and another one holds its queue, and
then nothing changes; and a binding that an operation takes away was made by the consumer that is
stopped or dropped, and by no other. -/
theorem consumers_hold_the_bindings_that_they_made {w : World}
    (hqueues : (w.bus.bindings.map (·.queue)).Nodup)
    (hrange : ∀ r ∈ w.bus.bindings, r.channel < w.bus.channels.length)
    (hfresh : ∀ c ∈ w.consumers, c.isRunning = false ∧ c.channels = [])
    (ops : List Operation) {t : Tenancy} (hrun : Tenancy.run w ops = t) :
    (∀ n c, t.world.consumers[n]? = some c →
      (c.isRunning = true ↔ ∃ r ∈ t.world.bus.bindings, (n, r) ∈ t.made) ∧
      ((∃ fault, t.world.operate (.start n) = .error fault) ↔ c.isRunning = false ∧
        ∃ r ∈ t.world.bus.bindings, r.queue = c.config.queue ∧ (n, r) ∉ t.made) ∧
      ∀ fault, t.world.operate (.start n) = .error fault → t.step (.start n) = t) ∧
    (∀ n r, (n, r) ∈ t.made →
      ∃ c channel, t.world.consumers[n]? = some c ∧ r = c.binding channel) ∧
    ∀ op, ∀ r ∈ t.world.bus.bindings, r ∉ (t.step op).world.bus.bindings →
      (op.consumer, r) ∈ t.made ∧ ∀ n, (n, r) ∈ t.made → n = op.consumer := by
  have h : t.IsSettled := by
    rw [← hrun]
    exact (Tenancy.isSettled_start hqueues hrange hfresh).foldl_step ops
  refine ⟨?_, h.configured, fun op r hr hgone => h.own_of_gone op hr hgone⟩
  intro n c hc
  refine ⟨h.running n c hc, ?_, ?_⟩
  · simp only [World.operate]
    rw [World.startConsumer_eq hc]
    cases hrunning : c.isRunning with
    | true => simp
    | false =>
      rw [← h.isBound_iff hc hrunning]
      cases t.world.bus.isBound c.config.queue <;> simp
  · intro fault hfault
    unfold Tenancy.step
    rw [hfault]

/-- Two consumers with queues of one name, on a bus that somebody else uses too. -/
def namesakes : World where
  bus := { bindings := [⟨"demo", "disk", "other", 0⟩], channels := [{ queue := "other" }] }
  consumers := [
    { config := { exchange := "demo", routingKey := "cpu", queue := "watch" }, listener := .source 0 },
    { config := { exchange := "demo", routingKey := "memory", queue := "watch" },
      listener := .source 0 }]

/-- The second consumer fails to start, is dropped, and the queue of the first stays bound. -/
theorem a_namesake_does_not_unbind :
    ∃ t, Tenancy.run namesakes [.start 0, .start 1, .stop 1, .drop 1] = t ∧
      (∃ fault, t.world.operate (.start 1) = .error fault) ∧
      ∃ r ∈ t.world.bus.bindings, (0, r) ∈ t.made := by
  refine ⟨_, rfl, ?_⟩
  obtain ⟨hconsumers, -⟩ := consumers_hold_the_bindings_that_they_made (w := namesakes)
    (by decide) (by decide) (by simp [namesakes]) [.start 0, .start 1, .stop 1, .drop 1] rfl
  obtain ⟨hfirst, -⟩ := hconsumers 0 _ rfl
  obtain ⟨-, hsecond, -⟩ := hconsumers 1 _ rfl
  exact ⟨hsecond.mpr ⟨rfl, ⟨"demo", "cpu", "watch", 1⟩, by decide, rfl, by decide⟩, hfirst.mp rfl⟩

end Watchtower.Live
