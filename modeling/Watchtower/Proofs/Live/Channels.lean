-- The channels of a bus, seen one at a time: what waits in a channel, whether anybody receives
-- there, and how many barriers of a flush are under way. Each operation of the bus is described by
-- what it does to these, and keeps the bindings in order.
import Mathlib.Algebra.GroupWithZero.Nat
import Mathlib.Data.List.Induction
import Mathlib.Data.List.Nodup
import Watchtower.Proofs.Live.Flush

namespace Watchtower.Live

/-! ## Views -/

/-- The envelope is the barrier of a flush. -/
def Envelope.isBarrier (flush : Nat) : Envelope → Bool
  | .barrier n => n == flush
  | _ => false

namespace Bus

/-- What waits in a channel. -/
def waitingAt (b : Bus) (channel : Nat) : List Envelope :=
  (b.channels[channel]?.map (·.waiting)).getD []

/-- The exchange and the routing key to which a channel is bound. -/
def pairAt? (b : Bus) (channel : Nat) : Option (String × String) :=
  (b.bindings.find? (·.channel == channel)).map fun r => (r.exchange, r.routingKey)

/-- How many barriers of a flush wait in the channels. -/
def barriers (b : Bus) (flush : Nat) : Nat :=
  (b.channels.map fun c => c.waiting.countP (Envelope.isBarrier flush)).sum

theorem isOpen_eq_false {b : Bus} {channel : Nat} (h : b.channels.length ≤ channel) :
    b.isOpen channel = false := by
  unfold isOpen
  rw [List.getElem?_eq_none h]
  rfl

theorem lt_of_isOpen {b : Bus} {channel : Nat} (h : b.isOpen channel = true) :
    channel < b.channels.length := by
  by_contra hge
  rw [isOpen_eq_false (Nat.le_of_not_lt hge)] at h
  cases h

theorem sum_map_set {α : Type} (f : α → Nat) {items : List α} {i : Nat} {old : α} (new : α)
    (hi : items[i]? = some old) :
    ((items.set i new).map f).sum + f old = (items.map f).sum + f new := by
  induction items generalizing i with
  | nil => cases hi
  | cons item rest ih =>
    cases i with
    | zero =>
      cases hi
      simp only [List.set_cons_zero, List.map_cons, List.sum_cons]
      omega
    | succ i =>
      have hrest := ih (i := i) hi
      simp only [List.set_cons_succ, List.map_cons, List.sum_cons]
      omega

/-- A barrier that waits somewhere is counted. -/
theorem barriers_pos {b : Bus} {channel flush : Nat} (h : .barrier flush ∈ b.waitingAt channel) :
    0 < b.barriers flush := by
  unfold waitingAt at h
  cases hch : b.channels[channel]? with
  | none => simp [hch] at h
  | some ch =>
    rw [hch] at h
    have hcount : 0 < ch.waiting.countP (Envelope.isBarrier flush) :=
      List.countP_pos_iff.mpr ⟨_, h, by simp [Envelope.isBarrier]⟩
    have hsum := sum_map_set (fun c : Channel => c.waiting.countP (Envelope.isBarrier flush))
      { ch with waiting := [] } hch
    unfold barriers
    simp only [List.countP_nil] at hsum
    omega

/-! ## Sending -/

@[simp] theorem bindings_send (b : Bus) (channel : Nat) (e : Envelope) :
    (b.send channel e).bindings = b.bindings := rfl

@[simp] theorem length_channels_send (b : Bus) (channel : Nat) (e : Envelope) :
    (b.send channel e).channels.length = b.channels.length := by
  simp [send]

@[simp] theorem isOpen_send (b : Bus) (channel other : Nat) (e : Envelope) :
    (b.send channel e).isOpen other = b.isOpen other := by
  unfold isOpen send
  rw [List.getElem?_modify]
  cases b.channels[other]? with
  | none => rfl
  | some ch =>
    by_cases h : channel = other
    · cases hopen : ch.isOpen <;> simp [h, Channel.send, hopen]
    · simp [h]

/-- An envelope waits at the end of the channel into which it is sent, if there is a receiver. -/
theorem waitingAt_send (b : Bus) (channel other : Nat) (e : Envelope) :
    (b.send channel e).waitingAt other =
      b.waitingAt other ++ if channel = other ∧ b.isOpen other = true then [e] else [] := by
  unfold waitingAt isOpen send
  rw [List.getElem?_modify]
  cases b.channels[other]? with
  | none => simp
  | some ch =>
    by_cases h : channel = other
    · cases hopen : ch.isOpen <;> simp [h, Channel.send, hopen]
    · simp [h]

theorem barriers_send_le (b : Bus) (channel : Nat) (e : Envelope) (flush : Nat) :
    (b.send channel e).barriers flush ≤
      b.barriers flush + if e.isBarrier flush = true then 1 else 0 := by
  unfold barriers send
  cases hch : b.channels[channel]? with
  | none =>
    rw [List.modify_eq_self (List.getElem?_eq_none_iff.mp hch)]
    exact Nat.le_add_right _ _
  | some ch =>
    have hset : b.channels.modify channel (·.send e) = b.channels.set channel (ch.send e) := by
      rw [List.modify_eq_set_getElem?, hch]
      rfl
    have hsum := sum_map_set (fun c : Channel => c.waiting.countP (Envelope.isBarrier flush))
      (ch.send e) hch
    have hone : (ch.send e).waiting.countP (Envelope.isBarrier flush) ≤
        ch.waiting.countP (Envelope.isBarrier flush) +
          if e.isBarrier flush = true then 1 else 0 := by
      unfold Channel.send
      split
      · simp [List.countP_append, List.countP_singleton]
      · exact Nat.le_add_right _ _
    simp only [hset]
    omega

/-- Envelopes were sent: each of these channels was sent one, and all else is as before. -/
structure Sent (b b' : Bus) (channels : List Nat) (e : Envelope) : Prop where
  bindings : b'.bindings = b.bindings
  length : b'.channels.length = b.channels.length
  isOpen : ∀ i, b'.isOpen i = b.isOpen i
  waiting : ∀ i, b'.waitingAt i =
    b.waitingAt i ++ if i ∈ channels ∧ b.isOpen i = true then [e] else []
  barriers : ∀ flush, b'.barriers flush ≤
    b.barriers flush + if e.isBarrier flush = true then channels.length else 0

theorem sent_nil (b : Bus) (e : Envelope) : Sent b b [] e where
  bindings := rfl
  length := rfl
  isOpen _ := rfl
  waiting i := by simp
  barriers flush := Nat.le_add_right _ _

theorem Sent.mem_waiting {b b' : Bus} {channels : List Nat} {e e' : Envelope}
    (h : Sent b b' channels e) {i : Nat} (hmem : e' ∈ b'.waitingAt i) :
    e' ∈ b.waitingAt i ∨ (e' = e ∧ i ∈ channels) := by
  rw [h.waiting, List.mem_append] at hmem
  refine hmem.imp_right fun hnew => ?_
  split at hnew
  · rename_i hboth
    exact ⟨List.mem_singleton.mp hnew, hboth.1⟩
  · cases hnew

/-- Nothing arrives where nobody receives. -/
theorem Sent.waiting_of_closed {b b' : Bus} {channels : List Nat} {e : Envelope}
    (h : Sent b b' channels e) {i : Nat} (hclosed : b.isOpen i = false) :
    b'.waitingAt i = b.waitingAt i := by
  rw [h.waiting, hclosed]
  simp

theorem Sent.send {b b' : Bus} {channels : List Nat} {e : Envelope} (h : Sent b b' channels e)
    {channel : Nat} (hnew : channel ∉ channels) :
    Sent b (b'.send channel e) (channels ++ [channel]) e where
  bindings := h.bindings
  length := (length_channels_send b' channel e).trans h.length
  isOpen i := (isOpen_send b' channel i e).trans (h.isOpen i)
  waiting i := by
    rw [waitingAt_send, h.waiting, h.isOpen]
    by_cases hi : channel = i
    · subst hi
      simp [hnew]
    · have hne : i ≠ channel := fun heq => hi heq.symm
      simp [hi, hne]
  barriers flush := by
    have hsend := b'.barriers_send_le channel e flush
    have hbefore := h.barriers flush
    rw [List.length_append, List.length_singleton]
    split at hsend <;> simp_all <;> omega

theorem sent_foldl (b : Bus) (e : Envelope) {bound : List Binding}
    (hnodup : (bound.map (·.channel)).Nodup) :
    Sent b (bound.foldl (fun b r => b.send r.channel e) b) (bound.map (·.channel)) e := by
  -- On the bindings from the last: the envelope for the last is sent after the others.
  induction bound using List.reverseRecOn with
  | nil => exact sent_nil b e
  | append_singleton rest r ih =>
    rw [List.map_append, List.nodup_append] at hnodup
    rw [List.foldl_append, List.map_append]
    apply (ih hnodup.1).send
    intro hmem
    exact hnodup.2.2 _ hmem _ (by simp) rfl

/-! ## Order of the bindings -/

/-- Bound queues have names and channels of their own, and there is a receiver for each. -/
structure IsOrdered (b : Bus) : Prop where
  queues : (b.bindings.map (·.queue)).Nodup
  channels : (b.bindings.map (·.channel)).Nodup
  received : ∀ r ∈ b.bindings, b.isOpen r.channel = true ∧ .shutdown ∉ b.waitingAt r.channel

variable {b b' : Bus}

theorem IsOrdered.sent (h : b.IsOrdered) {channels : List Nat} {e : Envelope}
    (hsent : Sent b b' channels e) (he : e ≠ .shutdown) : b'.IsOrdered := by
  refine ⟨hsent.bindings ▸ h.queues, hsent.bindings ▸ h.channels, ?_⟩
  intro r hr
  rw [hsent.bindings] at hr
  obtain ⟨hopen, hnone⟩ := h.received r hr
  refine ⟨(hsent.isOpen _).trans hopen, ?_⟩
  intro hmem
  rcases hsent.mem_waiting hmem with hold | ⟨hnew, -⟩
  · exact hnone hold
  · exact he hnew.symm

/-- The binding of a channel is found by it. -/
theorem IsOrdered.pairAt_eq_some (h : b.IsOrdered) {channel : Nat} {exchange routingKey : String} :
    b.pairAt? channel = some (exchange, routingKey) ↔
      ∃ queue, ⟨exchange, routingKey, queue, channel⟩ ∈ b.bindings := by
  unfold pairAt?
  constructor
  · intro hpair
    obtain ⟨⟨_, _, queue, _⟩, hfind, heq⟩ := Option.map_eq_some_iff.mp hpair
    cases heq
    have hchannel := List.find?_some hfind
    simp only [beq_iff_eq] at hchannel
    subst hchannel
    exact ⟨queue, List.mem_of_find?_eq_some hfind⟩
  · rintro ⟨queue, hmem⟩
    cases hfind : b.bindings.find? (·.channel == channel) with
    | none =>
      have hnone := List.find?_eq_none.mp hfind _ hmem
      simp at hnone
    | some r =>
      have hchannel := List.find?_some hfind
      simp only [beq_iff_eq] at hchannel
      have hsame : r = ⟨exchange, routingKey, queue, channel⟩ :=
        List.inj_on_of_nodup_map h.channels (List.mem_of_find?_eq_some hfind) hmem hchannel
      rw [hsame]
      rfl

/-! ## Publishing and flushing -/

/-- A payload is sent into the channels that are bound to its pair. -/
theorem IsOrdered.publish (h : b.IsOrdered) (exchange routingKey : String) (payload : Payload) :
    Sent b (b.publish exchange routingKey payload).2
      ((b.routes exchange routingKey).map (·.channel)) (.deliver payload) :=
  sent_foldl b _ (h.channels.sublist (List.filter_sublist.map _))

theorem IsOrdered.mem_routes (h : b.IsOrdered) {exchange routingKey : String} {channel : Nat} :
    channel ∈ (b.routes exchange routingKey).map (·.channel) ↔
      b.pairAt? channel = some (exchange, routingKey) := by
  rw [h.pairAt_eq_some]
  unfold routes
  constructor
  · intro hmem
    obtain ⟨⟨_, _, queue, _⟩, hr, rfl⟩ := List.mem_map.mp hmem
    rw [List.mem_filter] at hr
    simp only [Bool.and_eq_true, beq_iff_eq] at hr
    obtain ⟨hr, rfl, rfl⟩ := hr
    exact ⟨queue, hr⟩
  · rintro ⟨queue, hr⟩
    exact List.mem_map.mpr ⟨_, List.mem_filter.mpr ⟨hr, by simp⟩, rfl⟩

@[simp] theorem flushes_publish (b : Bus) (exchange routingKey : String) (payload : Payload) :
    (b.publish exchange routingKey payload).2.flushes = b.flushes := by
  unfold publish
  simp only
  induction b.routes exchange routingKey generalizing b with
  | nil => rfl
  | cons r rest ih => exact (ih (b.send r.channel _)).trans (send_flushes b _ _)

/-- A flush begins with a barrier in each bound channel. -/
theorem IsOrdered.beginFlush (h : b.IsOrdered) :
    Sent b b.beginFlush (b.bindings.map (·.channel)) (.barrier b.flushes) := by
  have hsent := sent_foldl b (.barrier b.flushes) h.channels
  unfold Bus.beginFlush
  rw [foldl_barrier]
  exact ⟨hsent.bindings, hsent.length, hsent.isOpen, hsent.waiting, hsent.barriers⟩

@[simp] theorem flushes_beginFlush (b : Bus) : b.beginFlush.flushes = b.flushes + 1 := by
  unfold Bus.beginFlush
  simp only [Nat.add_right_cancel_iff]
  induction b.bindings generalizing b with
  | nil => rfl
  | cons r rest ih => exact (ih (b.send r.channel _)).trans (send_flushes b _ _)

theorem IsOrdered.mem_channels (h : b.IsOrdered) {channel : Nat} :
    channel ∈ b.bindings.map (·.channel) ↔ (b.pairAt? channel).isSome = true := by
  constructor
  · intro hmem
    obtain ⟨⟨exchange, routingKey, queue, _⟩, hr, rfl⟩ := List.mem_map.mp hmem
    rw [h.pairAt_eq_some.mpr ⟨queue, hr⟩]
    rfl
  · intro hsome
    obtain ⟨⟨exchange, routingKey⟩, hpair⟩ := Option.isSome_iff_exists.mp hsome
    obtain ⟨queue, hr⟩ := h.pairAt_eq_some.mp hpair
    exact List.mem_map.mpr ⟨_, hr, rfl⟩

/-- A bound channel has a receiver that has not been told to end. -/
theorem IsOrdered.received_of_pairAt (h : b.IsOrdered) {channel : Nat}
    (hsome : (b.pairAt? channel).isSome = true) :
    b.isOpen channel = true ∧ .shutdown ∉ b.waitingAt channel := by
  obtain ⟨r, hr, rfl⟩ := List.mem_map.mp (h.mem_channels.mpr hsome)
  exact h.received r hr

/-! ## Binding and unbinding -/

theorem bind_eq_ok {exchange routingKey queue : String} {channel : Nat}
    (h : b.bind exchange routingKey queue = .ok (channel, b')) :
    b.isBound queue = false ∧ channel = b.channels.length ∧ b' = { b with
      bindings := b.bindings ++ [⟨exchange, routingKey, queue, b.channels.length⟩]
      channels := b.channels ++ [{ queue }] } := by
  unfold Bus.bind at h
  split at h
  · cases h
  · rename_i hbound
    cases h
    exact ⟨by simpa using hbound, rfl, rfl⟩

section

variable {exchange routingKey queue : String} {channel : Nat}

theorem waitingAt_bind (h : b.bind exchange routingKey queue = .ok (channel, b')) (i : Nat) :
    b'.waitingAt i = b.waitingAt i := by
  obtain ⟨-, -, rfl⟩ := bind_eq_ok h
  unfold waitingAt
  rw [List.getElem?_append]
  split
  · rfl
  · rename_i hlt
    rw [List.getElem?_eq_none (Nat.le_of_not_lt hlt)]
    cases i - b.channels.length <;> rfl

theorem isOpen_bind (h : b.bind exchange routingKey queue = .ok (channel, b')) {i : Nat}
    (hi : i < b.channels.length) : b'.isOpen i = b.isOpen i := by
  obtain ⟨-, -, rfl⟩ := bind_eq_ok h
  unfold isOpen
  rw [List.getElem?_append_left hi]

theorem barriers_bind (h : b.bind exchange routingKey queue = .ok (channel, b')) (flush : Nat) :
    b'.barriers flush = b.barriers flush := by
  obtain ⟨-, -, rfl⟩ := bind_eq_ok h
  simp [barriers]

theorem IsOrdered.lt_of_mem (h : b.IsOrdered) {r : Binding} (hr : r ∈ b.bindings) :
    r.channel < b.channels.length :=
  lt_of_isOpen (h.received r hr).1

theorem IsOrdered.bind (hb : b.IsOrdered)
    (h : b.bind exchange routingKey queue = .ok (channel, b')) : b'.IsOrdered := by
  have hwaiting := waitingAt_bind h
  have hopen := fun {i} => isOpen_bind (i := i) h
  obtain ⟨hfree, -, rfl⟩ := bind_eq_ok h
  refine ⟨?_, ?_, ?_⟩
  · simp only [List.map_append, List.map_cons, List.map_nil]
    refine List.nodup_append.mpr ⟨hb.queues, List.nodup_singleton _, ?_⟩
    intro name hname other hother heq
    obtain ⟨r, hr, rfl⟩ := List.mem_map.mp hname
    rw [List.mem_singleton.mp hother] at heq
    unfold isBound at hfree
    rw [List.any_eq_false] at hfree
    exact hfree r hr (by simpa using heq)
  · simp only [List.map_append, List.map_cons, List.map_nil]
    refine List.nodup_append.mpr ⟨hb.channels, List.nodup_singleton _, ?_⟩
    intro number hnumber other hother heq
    obtain ⟨r, hr, rfl⟩ := List.mem_map.mp hnumber
    rw [List.mem_singleton.mp hother] at heq
    exact absurd (hb.lt_of_mem hr) (by omega)
  · intro r hr
    rcases List.mem_append.mp hr with hold | hnew
    · rw [hopen (hb.lt_of_mem hold), hwaiting]
      exact hb.received r hold
    · rw [List.mem_singleton.mp hnew, hwaiting]
      refine ⟨by simp [isOpen], ?_⟩
      unfold waitingAt
      rw [List.getElem?_eq_none (Nat.le_refl _)]
      exact List.not_mem_nil

theorem IsOrdered.pairAt_bind (hb : b.IsOrdered)
    (h : b.bind exchange routingKey queue = .ok (channel, b')) (i : Nat) :
    b'.pairAt? i = if channel = i then some (exchange, routingKey) else b.pairAt? i := by
  have hlt := fun r hr => hb.lt_of_mem (r := r) hr
  obtain ⟨-, rfl, rfl⟩ := bind_eq_ok h
  unfold pairAt?
  rw [List.find?_append]
  by_cases hi : b.channels.length = i
  · have hnone : b.bindings.find? (·.channel == i) = none := by
      rw [List.find?_eq_none]
      intro r hr
      have := hlt r hr
      simp
      omega
    rw [hnone, if_pos hi]
    simp [hi]
  · rw [if_neg hi]
    cases b.bindings.find? (·.channel == i) <;> simp [hi]

end

section

variable {queue : String} {r : Binding}

theorem unbind_of_find (hfind : b.bindings.find? (·.queue == queue) = some r) :
    b.unbind queue = { b with bindings := b.bindings.eraseP (·.queue == queue) }.send r.channel
      .shutdown := by
  unfold unbind
  rw [hfind]

theorem unbind_of_none (hfind : b.bindings.find? (·.queue == queue) = none) :
    b.unbind queue = b := by
  unfold unbind
  rw [hfind]

/-- Of the bindings, the one of the queue goes. -/
theorem bindings_unbind (hqueues : (b.bindings.map (·.queue)).Nodup) (queue : String) :
    (b.unbind queue).bindings = b.bindings.filter (·.queue != queue) := by
  cases hfind : b.bindings.find? (·.queue == queue) with
  | none =>
    rw [unbind_of_none hfind, eq_comm, List.filter_eq_self]
    intro r hr
    simpa using List.find?_eq_none.mp hfind r hr
  | some r =>
    rw [unbind_of_find hfind, bindings_send]
    obtain ⟨hqueue, before, after, heq, hbefore⟩ := List.find?_eq_some_iff_append.mp hfind
    have hname : r.queue = queue := by simpa using hqueue
    simp only [heq] at hqueues ⊢
    rw [List.map_append, List.map_cons, List.nodup_middle, List.nodup_cons,
      ← List.map_append] at hqueues
    have hothers : (before ++ after).filter (·.queue != queue) = before ++ after := by
      rw [List.filter_eq_self]
      intro r' hr'
      simp only [bne_iff_ne]
      intro hsame
      exact hqueues.1 (hname.trans hsame.symm ▸ List.mem_map.mpr ⟨r', hr', rfl⟩)
    have herase : (r :: after).eraseP (·.queue == queue) = after := by
      simp [hqueue]
    rw [List.eraseP_append_right _ (by simpa using hbefore), herase, List.filter_append,
      List.filter_cons_of_neg (by simp [hname]), ← List.filter_append, hothers]

theorem IsOrdered.bindings_unbind (h : b.IsOrdered)
    (hfind : b.bindings.find? (·.queue == queue) = some r) :
    (b.unbind queue).bindings = b.bindings.filter fun r' => r'.channel != r.channel := by
  have hr := List.mem_of_find?_eq_some hfind
  have hname : r.queue = queue := by simpa using List.find?_some hfind
  rw [Bus.bindings_unbind h.queues]
  apply List.filter_congr
  intro r' hr'
  rw [Bool.eq_iff_iff, bne_iff_ne, bne_iff_ne, not_iff_not, ← hname]
  constructor
  · exact fun hsame => congrArg _ (List.inj_on_of_nodup_map h.queues hr' hr hsame)
  · exact fun hsame => congrArg _ (List.inj_on_of_nodup_map h.channels hr' hr hsame)

theorem sent_unbind (hfind : b.bindings.find? (·.queue == queue) = some r) :
    Sent { b with bindings := (b.unbind queue).bindings } (b.unbind queue) [r.channel] .shutdown := by
  rw [unbind_of_find hfind]
  exact (sent_nil _ _).send List.not_mem_nil

theorem IsOrdered.unbind (h : b.IsOrdered)
    (hfind : b.bindings.find? (·.queue == queue) = some r) : (b.unbind queue).IsOrdered := by
  have hsent := sent_unbind hfind
  have hbindings := h.bindings_unbind hfind
  have hsub : (b.unbind queue).bindings.Sublist b.bindings := hbindings ▸ List.filter_sublist
  refine ⟨h.queues.sublist (hsub.map _), h.channels.sublist (hsub.map _), ?_⟩
  intro r' hr'
  obtain ⟨hopen, hnone⟩ := h.received r' (hsub.subset hr')
  refine ⟨(hsent.isOpen _).trans hopen, ?_⟩
  rw [hbindings, List.mem_filter] at hr'
  have hother : r'.channel ∉ [r.channel] := by simpa using hr'.2
  rw [hsent.waiting, if_neg (fun hboth => hother hboth.1), List.append_nil]
  exact hnone

theorem IsOrdered.pairAt_unbind (h : b.IsOrdered)
    (hfind : b.bindings.find? (·.queue == queue) = some r) (i : Nat) :
    (b.unbind queue).pairAt? i = if r.channel = i then none else b.pairAt? i := by
  unfold pairAt?
  rw [h.bindings_unbind hfind, List.find?_filter]
  by_cases hi : r.channel = i
  · subst hi
    rw [if_pos rfl, List.find?_eq_none.mpr (by simp)]
    rfl
  · rw [if_neg hi]
    congr 2
    funext r'
    by_cases hr' : r'.channel = i
    · have hne : r'.channel ≠ r.channel := fun heq => hi (heq.symm.trans hr')
      simp [hr', Ne.symm hi]
    · simp [hr']

@[simp] theorem flushes_unbind (b : Bus) (queue : String) :
    (b.unbind queue).flushes = b.flushes := by
  unfold Bus.unbind
  split <;> rfl

end

/-! ## Taking -/

/-- An envelope was taken out of a channel. With a shutdown the receiver goes, and all that waited
behind it. -/
structure Taken (b b' : Bus) (channel : Nat) (e : Envelope) : Prop where
  bindings : b'.bindings = b.bindings
  flushes : b'.flushes = b.flushes
  length : b'.channels.length = b.channels.length
  others : ∀ i, i ≠ channel → b'.waitingAt i = b.waitingAt i ∧ b'.isOpen i = b.isOpen i
  first : e ≠ .shutdown →
    b.waitingAt channel = e :: b'.waitingAt channel ∧ b'.isOpen channel = b.isOpen channel
  last : e = .shutdown → (∃ lost, b.waitingAt channel = .shutdown :: lost) ∧
    b'.waitingAt channel = [] ∧ b'.isOpen channel = false
  barriers : ∀ flush, b'.barriers flush + (if e.isBarrier flush = true then 1 else 0) ≤
    b.barriers flush

/-- What a channel becomes is seen at this channel, and at no other. -/
theorem taken_of_set {channel : Nat} {old new : Channel} {e : Envelope}
    (hold : b.channels[channel]? = some old)
    (hfirst : e ≠ .shutdown → old.waiting = e :: new.waiting ∧ new.isOpen = old.isOpen)
    (hlast : e = .shutdown → (∃ lost, old.waiting = .shutdown :: lost) ∧ new.waiting = [] ∧
      new.isOpen = false) :
    Taken b { b with channels := b.channels.set channel new } channel e := by
  have hlt : channel < b.channels.length := (List.getElem?_eq_some_iff.mp hold).1
  have hnew : (b.channels.set channel new)[channel]? = some new := List.getElem?_set_self hlt
  have hwaiting : b.waitingAt channel = old.waiting := by
    simp [waitingAt, hold]
  have hopen : b.isOpen channel = old.isOpen := by
    simp [isOpen, hold]
  refine ⟨rfl, rfl, List.length_set, ?_, ?_, ?_, ?_⟩
  · intro i hi
    have hsame : (b.channels.set channel new)[i]? = b.channels[i]? :=
      List.getElem?_set_ne (Ne.symm hi)
    unfold waitingAt isOpen
    rw [hsame]
    exact ⟨rfl, rfl⟩
  · intro he
    rw [hwaiting, hopen]
    simpa [waitingAt, isOpen, hnew] using hfirst he
  · intro he
    rw [hwaiting]
    simpa [waitingAt, isOpen, hnew] using hlast he
  · intro flush
    have hsum := sum_map_set (fun c : Channel => c.waiting.countP (Envelope.isBarrier flush)) new hold
    unfold barriers
    by_cases he : e = .shutdown
    · obtain ⟨-, hempty, -⟩ := hlast he
      rw [he]
      simp only [Envelope.isBarrier, hempty, List.countP_nil] at hsum ⊢
      simp only [Bool.false_eq_true, if_false]
      omega
    · rw [(hfirst he).1, List.countP_cons] at hsum
      simp only at hsum ⊢
      omega

theorem taken_of_take {channel : Nat} {e : Envelope} (h : b.take channel = some (e, b')) :
    Taken b b' channel e := by
  unfold Bus.take at h
  split at h
  · cases h
  · rename_i ch hch
    have hclosed : b.close channel = { b with
        channels := b.channels.set channel { ch with waiting := [], isOpen := false } } := by
      unfold close
      rw [List.modify_eq_set_getElem?, hch]
      rfl
    split at h
    · cases h
    · rename_i lost hwaiting
      cases h
      rw [hclosed]
      exact taken_of_set hch (fun he => absurd rfl he) fun _ => ⟨⟨lost, hwaiting⟩, rfl, rfl⟩
    · rename_i first rest hnot hwaiting
      cases h
      exact taken_of_set hch (fun _ => ⟨hwaiting, rfl⟩) fun he => (hnot he).elim

/-- What waits after an envelope was taken out waited before. -/
theorem Taken.mem_waiting {channel : Nat} {e e' : Envelope} (h : Taken b b' channel e) {i : Nat}
    (hmem : e' ∈ b'.waitingAt i) : e' ∈ b.waitingAt i := by
  by_cases hi : i = channel
  · subst hi
    by_cases he : e = .shutdown
    · rw [(h.last he).2.1] at hmem
      cases hmem
    · rw [(h.first he).1]
      exact List.mem_cons_of_mem _ hmem
  · rw [← (h.others i hi).1]
    exact hmem

theorem Taken.mem {channel : Nat} {e : Envelope} (h : Taken b b' channel e) :
    e ∈ b.waitingAt channel := by
  by_cases he : e = .shutdown
  · obtain ⟨⟨lost, hwaiting⟩, -⟩ := h.last he
    rw [hwaiting, he]
    exact List.mem_cons_self
  · rw [(h.first he).1]
    exact List.mem_cons_self

theorem lt_of_mem_waitingAt {channel : Nat} {e : Envelope} (h : e ∈ b.waitingAt channel) :
    channel < b.channels.length := by
  by_contra hge
  unfold waitingAt at h
  rw [List.getElem?_eq_none (Nat.le_of_not_lt hge)] at h
  cases h

theorem IsOrdered.taken (h : b.IsOrdered) {channel : Nat} {e : Envelope}
    (htaken : Taken b b' channel e) : b'.IsOrdered := by
  refine ⟨htaken.bindings ▸ h.queues, htaken.bindings ▸ h.channels, ?_⟩
  intro r hr
  rw [htaken.bindings] at hr
  obtain ⟨hopen, hnone⟩ := h.received r hr
  refine ⟨?_, fun hmem => hnone (htaken.mem_waiting hmem)⟩
  by_cases hchannel : r.channel = channel
  · subst hchannel
    have he : e ≠ .shutdown := by
      rintro rfl
      exact hnone htaken.mem
    exact (htaken.first he).2.trans hopen
  · exact (htaken.others _ hchannel).2.trans hopen

theorem Taken.pairAt {channel : Nat} {e : Envelope} (h : Taken b b' channel e) (i : Nat) :
    b'.pairAt? i = b.pairAt? i := by
  unfold pairAt?
  rw [h.bindings]

theorem Sent.pairAt {channels : List Nat} {e : Envelope} (h : Sent b b' channels e) (i : Nat) :
    b'.pairAt? i = b.pairAt? i := by
  unfold pairAt?
  rw [h.bindings]

end Bus

end Watchtower.Live
