-- What a flush does. Where each consumer has one binding and one channel of its own, a payload
-- that is published and flushed is heard once by each consumer that is bound to its pair, and
-- the bus is as it was before.
import Watchtower.Proofs.Live.Hearing

namespace Watchtower.Live

/-! ## Mail -/

/-- A bus whose channels hold these envelopes, by their numbers. -/
def Bus.holding (b : Bus) (mail : Nat → List Envelope) : Bus :=
  { b with channels := b.channels.mapIdx fun i c => { c with waiting := mail i } }

/-- The channels of the bus are open and nothing waits in them. -/
def Bus.IsIdle (b : Bus) : Prop :=
  ∀ c ∈ b.channels, c.isOpen ∧ c.waiting = []

theorem Bus.holding_congr {b : Bus} {mail mail' : Nat → List Envelope}
    (h : ∀ i < b.channels.length, mail i = mail' i) : b.holding mail = b.holding mail' := by
  unfold Bus.holding
  congr 1
  apply List.ext_getElem?
  intro i
  rw [List.getElem?_mapIdx, List.getElem?_mapIdx]
  cases hc : b.channels[i]? with
  | none => rfl
  | some c =>
    have hlt : i < b.channels.length := (List.getElem?_eq_some_iff.mp hc).1
    simp [h i hlt]

theorem Bus.holding_nothing {b : Bus} (hidle : b.IsIdle) : b.holding (fun _ => []) = b := by
  unfold Bus.holding
  have hchannels : b.channels.mapIdx (fun _ c => { c with waiting := [] }) = b.channels := by
    apply List.ext_getElem?
    intro i
    rw [List.getElem?_mapIdx]
    cases hc : b.channels[i]? with
    | none => rfl
    | some c =>
      have hempty := (hidle c (List.mem_of_getElem? hc)).2
      simp [← hempty]
  rw [hchannels]

/-- An envelope that is sent into an open channel waits behind the others. -/
theorem Bus.send_holding {b : Bus} (hidle : b.IsIdle) (mail : Nat → List Envelope) (i : Nat)
    (e : Envelope) : (b.holding mail).send i e =
      b.holding fun j => if j = i then mail j ++ [e] else mail j := by
  unfold Bus.holding Bus.send
  congr 1
  apply List.ext_getElem?
  intro j
  rw [List.getElem?_modify, List.getElem?_mapIdx, List.getElem?_mapIdx]
  cases hc : b.channels[j]? with
  | none => simp
  | some c =>
    have hopen := (hidle c (List.mem_of_getElem? hc)).1
    by_cases hij : i = j
    · subst hij
      simp [Channel.send, hopen]
    · have hji : j ≠ i := fun h => hij h.symm
      simp [hij, hji]

theorem Bus.waitingIn_holding {b : Bus} {mail : Nat → List Envelope} {i : Nat}
    (hi : i < b.channels.length) : (b.holding mail).waitingIn i = (mail i).length := by
  unfold Bus.holding Bus.waitingIn
  rw [List.getElem?_mapIdx, List.getElem?_eq_getElem hi]
  rfl

/-- The first envelope of a channel is taken out, and the others stay. -/
theorem Bus.take_holding {b : Bus} {mail : Nat → List Envelope} {i : Nat} {e : Envelope}
    {rest : List Envelope} (hi : i < b.channels.length) (hmail : mail i = e :: rest)
    (he : e ≠ .shutdown) : (b.holding mail).take i =
      some (e, b.holding fun j => if j = i then rest else mail j) := by
  unfold Bus.take
  have hchannel : (b.holding mail).channels[i]? = some { b.channels[i] with waiting := mail i } := by
    unfold Bus.holding
    rw [List.getElem?_mapIdx, List.getElem?_eq_getElem hi]
    rfl
  rw [hchannel]
  simp only [hmail]
  have hset : (b.holding mail).channels.set i { b.channels[i] with waiting := rest } =
      (b.holding fun j => if j = i then rest else mail j).channels := by
    unfold Bus.holding
    apply List.ext_getElem?
    intro j
    rw [List.getElem?_set, List.getElem?_mapIdx, List.getElem?_mapIdx]
    by_cases hij : i = j
    · subst hij
      simp [hi]
    · have hji : j ≠ i := fun h => hij h.symm
      simp [hij, hji]
  cases e with
  | shutdown => exact absurd rfl he
  | deliver payload =>
    simp only [hset]
    rfl
  | barrier flush =>
    simp only [hset]
    rfl

/-! ## Wiring -/

/-- The binding of a consumer with a number, which is also the number of its channel. -/
def Consumer.binding (c : Consumer) (number : Nat) : Binding :=
  ⟨c.config.exchange, c.config.routingKey, c.config.queue, number⟩

/-- Each consumer has one binding and one channel, with its own number, and listens for a
source. Nothing waits in the channels. -/
structure World.IsWired (w : World) : Prop where
  bindings : w.bus.bindings = w.consumers.zipIdx.map fun (c, i) => c.binding i
  channels : w.bus.channels = w.consumers.map fun c => { queue := c.config.queue }
  owned : ∀ (i : Nat) (c : Consumer), w.consumers[i]? = some c → c.channels = [i]
  listens : ∀ c ∈ w.consumers, ∃ number < w.sources.length, c.listener = .source number

/-- Wiring rests on the bus, the consumers and the number of sources only. -/
theorem World.IsWired.congr {w w' : World} (h : w.IsWired) (hbus : w'.bus = w.bus)
    (hconsumers : w'.consumers = w.consumers) (hsources : w'.sources.length = w.sources.length) :
    w'.IsWired := by
  refine ⟨?_, ?_, ?_, ?_⟩
  · rw [hbus, hconsumers]
    exact h.bindings
  · rw [hbus, hconsumers]
    exact h.channels
  · rw [hconsumers]
    exact h.owned
  · rw [hconsumers, hsources]
    exact h.listens

theorem World.IsWired.isIdle {w : World} (h : w.IsWired) : w.bus.IsIdle := by
  intro c hc
  rw [h.channels] at hc
  obtain ⟨consumer, -, rfl⟩ := List.mem_map.mp hc
  exact ⟨rfl, rfl⟩

theorem World.IsWired.length_channels {w : World} (h : w.IsWired) :
    w.bus.channels.length = w.consumers.length := by
  rw [h.channels, List.length_map]

/-- The consumer of a channel is the one with its number. -/
theorem World.IsWired.consumerOf? {w : World} (h : w.IsWired) (i : Nat) :
    w.consumerOf? i = w.consumers[i]? := by
  unfold World.consumerOf?
  cases hi : w.consumers[i]? with
  | none =>
    rw [List.find?_eq_none]
    intro c hc
    obtain ⟨j, hj⟩ := List.getElem?_of_mem hc
    have hlt : j < w.consumers.length := (List.getElem?_eq_some_iff.mp hj).1
    have hge : w.consumers.length ≤ i := List.getElem?_eq_none_iff.mp hi
    have hne : i ≠ j := by omega
    simp [h.owned j c hj, hne]
  | some c =>
    rw [List.find?_eq_some_iff_getElem]
    obtain ⟨hlt, hget⟩ := List.getElem?_eq_some_iff.mp hi
    refine ⟨by simp [h.owned i c hi], i, hlt, hget, ?_⟩
    intro j hj
    have hjlt : j < w.consumers.length := by omega
    have hne : i ≠ j := by omega
    have hown := h.owned j w.consumers[j] (List.getElem?_eq_getElem hjlt)
    simp [hown, hne]

/-! ## Draining -/

/-- What is heard of envelopes that a consumer takes out. -/
def World.heardIn (w : World) (c : Consumer) (envelopes : List Envelope) : List JournalEntry :=
  envelopes.flatMap fun
    | .deliver payload => w.heard payload c
    | _ => []

/-- Taking out one envelope leaves what is heard of it. -/
theorem World.deliverNext_holding {w : World} (hw : w.IsWired) (hn : w.IsNoting) {b : Bus}
    {mail : Nat → List Envelope} {i : Nat} {c : Consumer} {e : Envelope} {rest : List Envelope}
    (hb : b.channels.length = w.consumers.length) (hc : w.consumers[i]? = some c)
    (hmail : mail i = e :: rest) (he : e ≠ .shutdown) :
    ({ w with bus := b.holding mail }).deliverNext i =
      { w.noted (w.heardIn c [e]) with bus := b.holding fun j => if j = i then rest else mail j } := by
  have hi : i < b.channels.length := by
    rw [hb]
    exact (List.getElem?_eq_some_iff.mp hc).1
  have htake := Bus.take_holding hi hmail he
  unfold World.deliverNext
  simp only [htake]
  cases e with
  | shutdown => exact absurd rfl he
  | barrier flush => simp [World.heardIn]
  | deliver payload =>
    have hcons : ({ w with bus := b.holding mail } : World).consumerOf? i = some c := by
      show w.consumerOf? i = some c
      rw [hw.consumerOf?, hc]
    obtain ⟨number, -, hlistener⟩ := hw.listens c (List.mem_of_getElem? hc)
    simp only [hcons, hlistener]
    have hnoting : ({ w with bus := b.holding fun j => if j = i then rest else mail j } :
      World).IsNoting := hn
    rw [receive_of_isNoting hnoting]
    simp [World.heardIn, World.heard, hlistener]
    rfl

theorem World.IsWired.noted {w : World} (h : w.IsWired) (entries : List JournalEntry) :
    (w.noted entries).IsWired := ⟨h.bindings, h.channels, h.owned, h.listens⟩

theorem World.heardIn_cons (w : World) (c : Consumer) (e : Envelope) (rest : List Envelope) :
    w.heardIn c (e :: rest) = w.heardIn c [e] ++ w.heardIn c rest := by
  unfold World.heardIn
  rw [List.flatMap_cons, List.flatMap_cons, List.flatMap_nil, List.append_nil]

/-- A fold that does not look at its numbers begins with a step. -/
theorem foldl_range_succ {α : Type} (f : α → α) (n : Nat) (a : α) :
    (List.range (n + 1)).foldl (fun a _ => f a) a =
      (List.range n).foldl (fun a _ => f a) (f a) := by
  rw [List.range_succ_eq_map, List.foldl_cons, List.foldl_map]

/-- Draining a channel leaves what is heard of all that waited in it. -/
theorem World.drain_holding {w : World} (hw : w.IsWired) (hn : w.IsNoting) {b : Bus}
    (mail : Nat → List Envelope) {i : Nat} {c : Consumer}
    (hb : b.channels.length = w.consumers.length) (hc : w.consumers[i]? = some c)
    (hmail : .shutdown ∉ mail i) :
    ({ w with bus := b.holding mail }).drain i =
      { w.noted (w.heardIn c (mail i)) with
        bus := b.holding fun j => if j = i then [] else mail j } := by
  have hi : i < b.channels.length := by
    rw [hb]
    exact (List.getElem?_eq_some_iff.mp hc).1
  unfold World.drain
  rw [Bus.waitingIn_holding hi]
  generalize hes : mail i = es at hmail
  induction es generalizing w mail with
  | nil =>
    have hsame : (fun j => if j = i then [] else mail j) = mail := by
      funext j
      by_cases hj : j = i
      · rw [if_pos hj, hj, hes]
      · rw [if_neg hj]
    rw [hsame]
    simp [World.heardIn]
  | cons e rest ih =>
    have he : e ≠ .shutdown := fun h => hmail (by simp [h])
    have hstep := World.deliverNext_holding hw hn hb hc hes he
    rw [List.length_cons, foldl_range_succ, hstep]
    have hrest := ih (w := w.noted (w.heardIn c [e])) (hw.noted _) hn
      (fun j => if j = i then rest else mail j) hb hc (by simp) (fun h => hmail (by simp [h]))
    have hmails : (fun j => if j = i then [] else if j = i then rest else mail j) =
        fun j => if j = i then [] else mail j := by
      funext j
      by_cases hj : j = i
      · simp [hj]
      · simp [hj]
    rw [hmails] at hrest
    refine hrest.trans ?_
    rw [World.heardIn_cons w c e rest, ← World.noted_noted]
    rfl

/-- Draining the first channels leaves what is heard in them, one after the other. -/
theorem World.drain_first {w : World} (hw : w.IsWired) (hn : w.IsNoting) {b : Bus}
    {mail : Nat → List Envelope} (hb : b.channels.length = w.consumers.length)
    (hmail : ∀ i, .shutdown ∉ mail i) {count : Nat} (hcount : count ≤ w.consumers.length) :
    (List.range count).foldl World.drain { w with bus := b.holding mail } =
      { w.noted ((w.consumers.take count).zipIdx.flatMap fun (c, i) => w.heardIn c (mail i)) with
        bus := b.holding fun j => if j < count then [] else mail j } := by
  induction count with
  | zero => simp
  | succ count ih =>
    have hlt : count < w.consumers.length := by omega
    rw [List.range_succ, List.foldl_append, ih (by omega)]
    rw [List.take_add_one, List.getElem?_eq_getElem hlt]
    simp only [Option.toList_some, List.zipIdx_append, List.flatMap_append]
    have hdrain := World.drain_holding
      (w := w.noted ((w.consumers.take count).zipIdx.flatMap fun (c, i) => w.heardIn c (mail i)))
      (hw.noted _) hn (fun j => if j < count then [] else mail j) hb
      (List.getElem?_eq_getElem hlt) (by simp [hmail])
    rw [List.foldl_cons, List.foldl_nil]
    refine hdrain.trans ?_
    have hmails : (fun j => if j = count then [] else if j < count then [] else mail j) =
        fun j => if j < count + 1 then [] else mail j := by
      funext j
      by_cases hj : j = count
      · simp [hj]
      · by_cases hlt : j < count
        · simp [hlt, show j < count + 1 by omega]
        · simp [hj, hlt, show ¬ j < count + 1 by omega]
    rw [hmails]
    have hlen : (w.consumers.take count).length = count := by
      rw [List.length_take]
      omega
    have hhere : (if count < count then [] else mail count) = mail count := by simp
    simp only [World.noted_noted, hhere, hlen, List.zipIdx_cons, List.zipIdx_nil,
      List.flatMap_cons, List.flatMap_nil, List.append_nil, Nat.zero_add]
    rfl

/-! ## Sending to bindings -/

/-- An envelope that is sent to some of the bindings waits in the channels of the consumers that
they belong to. -/
theorem Bus.foldl_send_holding {b : Bus} (hidle : b.IsIdle) (e : Envelope)
    (chosen : Binding → Bool) (consumers : List Consumer) (start : Nat)
    (mail : Nat → List Envelope) :
    (((consumers.zipIdx start).map fun (c, i) => c.binding i).filter chosen).foldl
        (fun b r => b.send r.channel e) (b.holding mail) =
      b.holding fun j => mail j ++
        if start ≤ j ∧ consumers[j - start]?.any (fun c => chosen (c.binding j)) then [e] else [] := by
  induction consumers generalizing start mail with
  | nil => simp
  | cons c rest ih =>
    -- What channel `j` gets comes from the first consumer or from one of the others.
    have hmail : ∀ j, (if start ≤ j ∧ (c :: rest)[j - start]?.any (fun c => chosen (c.binding j))
        then [e] else []) = (if j = start ∧ chosen (c.binding start) then [e] else []) ++
          if start + 1 ≤ j ∧ rest[j - (start + 1)]?.any (fun c => chosen (c.binding j))
            then [e] else [] := by
      intro j
      by_cases hj : j = start
      · subst hj
        simp [show ¬ j + 1 ≤ j by omega]
      · by_cases hle : start ≤ j
        · have hsub : j - start = (j - (start + 1)) + 1 := by omega
          rw [hsub]
          simp [hj, hle, show start + 1 ≤ j by omega]
        · simp [hj, hle, show ¬ start + 1 ≤ j by omega]
    rw [List.zipIdx_cons, List.map_cons, List.filter_cons]
    by_cases hc : chosen (c.binding start)
    · rw [if_pos hc, List.foldl_cons]
      have hsend := Bus.send_holding hidle mail start e
      rw [show (c.binding start).channel = start from rfl, hsend, ih]
      congr 1
      funext j
      rw [hmail j]
      by_cases hj : j = start
      · simp [hj, hc]
      · simp [hj]
    · rw [if_neg hc, ih]
      congr 1
      funext j
      rw [hmail j]
      simp [hc]

/-- The consumer is bound to this pair. -/
def Consumer.isBoundTo (c : Consumer) (exchange routingKey : String) : Bool :=
  c.config.exchange == exchange && c.config.routingKey == routingKey

/-- The bus after payloads were published on a pair, one after the other. -/
def Bus.publishAll (b : Bus) (exchange routingKey : String) (payloads : List Payload) : Bus :=
  payloads.foldl (fun b payload => (b.publish exchange routingKey payload).2) b

/-- A payload that is published waits behind the others in the channels of the consumers bound to
its pair. -/
theorem World.publish_holding {w : World} (hw : w.IsWired) (mail : Nat → List Envelope)
    (exchange routingKey : String) (payload : Payload) :
    ((w.bus.holding mail).publish exchange routingKey payload).2 = w.bus.holding fun j => mail j ++
      if w.consumers[j]?.any (·.isBoundTo exchange routingKey) then [.deliver payload] else [] := by
  have hsend := Bus.foldl_send_holding hw.isIdle (.deliver payload)
    (fun r => r.exchange == exchange && r.routingKey == routingKey) w.consumers 0 mail
  rw [← hw.bindings] at hsend
  simp only [Nat.zero_le, true_and, Nat.sub_zero] at hsend
  exact hsend

theorem World.publishAll_holding {w : World} (hw : w.IsWired) (mail : Nat → List Envelope)
    (exchange routingKey : String) (payloads : List Payload) :
    (w.bus.holding mail).publishAll exchange routingKey payloads = w.bus.holding fun j => mail j ++
      if w.consumers[j]?.any (·.isBoundTo exchange routingKey) then payloads.map .deliver
      else [] := by
  unfold Bus.publishAll
  induction payloads generalizing mail with
  | nil => simp
  | cons payload rest ih =>
    rw [List.foldl_cons, World.publish_holding hw, ih]
    congr 1
    funext j
    split <;> simp

theorem Bus.send_flushes (b : Bus) (channel : Nat) (e : Envelope) :
    (b.send channel e).flushes = b.flushes := rfl

theorem Bus.foldl_barrier (b : Bus) (bindings : List Binding) :
    bindings.foldl (fun b r => b.send r.channel (.barrier b.flushes)) b =
      bindings.foldl (fun b' r => b'.send r.channel (.barrier b.flushes)) b := by
  suffices h : ∀ b' : Bus, b'.flushes = b.flushes →
      bindings.foldl (fun b r => b.send r.channel (.barrier b.flushes)) b' =
        bindings.foldl (fun b' r => b'.send r.channel (.barrier b.flushes)) b' from h b rfl
  intro b' hb'
  induction bindings generalizing b' with
  | nil => rfl
  | cons r rest ih =>
    rw [List.foldl_cons, List.foldl_cons, hb']
    exact ih _ ((Bus.send_flushes b' _ _).trans hb')

/-- A flush begins with a barrier behind all that waits. -/
theorem World.beginFlush_holding {w : World} (hw : w.IsWired) (mail : Nat → List Envelope) :
    (w.bus.holding mail).beginFlush =
      { w.bus with flushes := w.bus.flushes + 1 }.holding fun j =>
        mail j ++ if j < w.consumers.length then [Envelope.barrier w.bus.flushes] else [] := by
  have hsend := Bus.foldl_send_holding hw.isIdle (.barrier w.bus.flushes) (fun _ => true)
    w.consumers 0 mail
  have hall : w.bus.bindings.filter (fun _ => true) = w.bus.bindings :=
    List.filter_eq_self.mpr (by simp)
  rw [← hw.bindings, hall] at hsend
  unfold Bus.beginFlush
  have hbindings : (w.bus.holding mail).bindings = w.bus.bindings := rfl
  rw [Bus.foldl_barrier, hbindings]
  have hflushes : (w.bus.holding mail).flushes = w.bus.flushes := rfl
  rw [hflushes, hsend]
  simp [Bus.holding]

/-! ## The law of a flush -/

/-- A flush delivers all that waits, in the order of the channels. -/
theorem World.flush_holding {w : World} (hw : w.IsWired) (hn : w.IsNoting)
    (mail : Nat → List Envelope) (hmail : ∀ i, .shutdown ∉ mail i) :
    ({ w with bus := w.bus.holding mail }).flush =
      { w.noted (w.consumers.zipIdx.flatMap fun (c, i) => w.heardIn c (mail i)) with
        bus := { w.bus with flushes := w.bus.flushes + 1 } } := by
  unfold World.flush
  simp only [World.beginFlush_holding hw]
  generalize hb : ({ w.bus with flushes := w.bus.flushes + 1 } : Bus) = b
  have hchannels : b.channels = w.bus.channels := by rw [← hb]
  have hlength : b.channels.length = w.consumers.length := by
    rw [hchannels, hw.length_channels]
  have hidle : b.IsIdle := by
    intro c hc
    exact hw.isIdle c (hchannels ▸ hc)
  have hheld : (b.holding fun j => mail j ++
      if j < w.consumers.length then [Envelope.barrier w.bus.flushes] else []).channels.length =
        w.consumers.length := by
    rw [← hlength]
    simp [Bus.holding]
  rw [hheld, World.drain_first hw hn hlength _ (Nat.le_refl _)]
  · have hempty : (b.holding fun j => if j < w.consumers.length then [] else
        mail j ++ if j < w.consumers.length then [Envelope.barrier w.bus.flushes] else []) = b := by
      refine (Bus.holding_congr ?_).trans (Bus.holding_nothing hidle)
      intro i hi
      simp [hlength ▸ hi]
    rw [hempty, List.take_length]
    -- Nothing is heard of the barriers.
    have hheard : ∀ entry ∈ w.consumers.zipIdx, w.heardIn entry.1 (mail entry.2 ++
        if entry.2 < w.consumers.length then [Envelope.barrier w.bus.flushes] else []) =
          w.heardIn entry.1 (mail entry.2) := by
      rintro ⟨c, i⟩ -
      unfold World.heardIn
      split <;> simp
    have hall : (w.consumers.zipIdx.flatMap fun (c, i) => w.heardIn c (mail i ++
        if i < w.consumers.length then [Envelope.barrier w.bus.flushes] else [])) =
          w.consumers.zipIdx.flatMap fun (c, i) => w.heardIn c (mail i) := by
      unfold List.flatMap
      rw [List.map_congr_left hheard]
    rw [hall]
  · intro i
    have hi := hmail i
    split <;> simp_all

/-- Where nothing waits, a flush does nothing. -/
theorem World.flush_idle {w : World} (hw : w.IsWired) (hn : w.IsNoting) :
    w.flush = { w with bus := { w.bus with flushes := w.bus.flushes + 1 } } := by
  have hflush := World.flush_holding hw hn (fun _ => []) (by simp)
  rw [Bus.holding_nothing hw.isIdle] at hflush
  rw [show w = { w with bus := w.bus } from rfl, hflush]
  simp [World.heardIn, World.noted]

theorem flatMap_filter {α β : Type} (p : α → Bool) (f : α → List β) (l : List α) :
    (l.filter p).flatMap f = l.flatMap fun a => if p a then f a else [] := by
  induction l with
  | nil => rfl
  | cons a rest ih =>
    by_cases h : p a
    · simp [h, ih]
    · simp [h, ih]

/-- What waits in the channels and is heard by nobody is gone after a flush. Payloads that were
published behind it are heard by each consumer that is bound to their pair, consumer by consumer
and each in their order, and leave nothing else. -/
theorem World.flush_publishAll {w : World} (hw : w.IsWired) (hn : w.IsNoting)
    (mail : Nat → List Envelope) (hmail : ∀ i, .shutdown ∉ mail i)
    (hunheard : ∀ i, ∀ c ∈ w.consumers, w.heardIn c (mail i) = [])
    (exchange routingKey : String) (payloads : List Payload) :
    ({ w with bus := (w.bus.holding mail).publishAll exchange routingKey payloads }).flush =
      { w.noted ((w.consumers.filter (·.isBoundTo exchange routingKey)).flatMap fun c =>
          payloads.flatMap (w.heard · c))
        with bus := { w.bus with flushes := w.bus.flushes + 1 } } := by
  rw [World.publishAll_holding hw, World.flush_holding hw hn _]
  · have hheard : ∀ entry ∈ w.consumers.zipIdx,
        w.heardIn entry.1 (mail entry.2 ++
          if w.consumers[entry.2]?.any (·.isBoundTo exchange routingKey)
          then payloads.map Envelope.deliver else []) =
        if entry.1.isBoundTo exchange routingKey then payloads.flatMap (w.heard · entry.1)
        else [] := by
      rintro ⟨c, i⟩ hc
      have hentry := List.mk_mem_zipIdx_iff_getElem?.mp hc
      have hnothing := hunheard i c (List.mem_of_getElem? hentry)
      rw [hentry, Option.any_some]
      unfold World.heardIn at hnothing ⊢
      rw [List.flatMap_append, hnothing, List.nil_append]
      split
      · rw [List.flatMap_map]
      · rfl
    have hall : (w.consumers.zipIdx.flatMap fun (c, i) =>
        w.heardIn c (mail i ++ if w.consumers[i]?.any (·.isBoundTo exchange routingKey)
          then payloads.map Envelope.deliver else [])) =
        (w.consumers.filter (·.isBoundTo exchange routingKey)).flatMap fun c =>
          payloads.flatMap (w.heard · c) := by
      rw [flatMap_filter]
      conv => rhs; rw [← List.zipIdx_map_fst 0 w.consumers]
      rw [List.flatMap_map]
      unfold List.flatMap
      rw [List.map_congr_left hheard]
      rfl
    rw [hall]
  · intro i
    have hi := hmail i
    split <;> simp_all

/-- A payload that is published and flushed is heard once by each consumer that is bound to its
pair, in their order, and leaves nothing else. -/
theorem World.flush_published {w : World} (hw : w.IsWired) (hn : w.IsNoting)
    (exchange routingKey : String) (payload : Payload) :
    ({ w with bus := (w.bus.publish exchange routingKey payload).2 }).flush =
      { w.noted ((w.consumers.filter (·.isBoundTo exchange routingKey)).flatMap (w.heard payload))
        with bus := { w.bus with flushes := w.bus.flushes + 1 } } := by
  have hflush := World.flush_publishAll hw hn (fun _ => []) (by simp)
    (by simp [World.heardIn]) exchange routingKey [payload]
  rw [Bus.holding_nothing hw.isIdle] at hflush
  simpa [Bus.publishAll] using hflush

end Watchtower.Live
