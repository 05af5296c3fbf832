-- Writers in a race. A write through a connection is two steps, one in the store and one on the
-- bus, and nothing holds other writers back between them. The store steps lead from value to
-- value; the changes arrive in the order of the other steps, which may be another one.
import Mathlib.Data.List.Perm.Basic
import Watchtower.Live.Bus
import Watchtower.Proofs.Live.Store

namespace Watchtower.Live

/-! ## Steps -/

/-- How far a write is. -/
inductive Phase where
  | ready
  /-- The store is written, and held this value before. -/
  | stored (previous : Json)
  /-- The change is published too. -/
  | returned (previous : Json)
  | failed (fault : Fault)

/-- The write of a value by a client. -/
structure Write where
  value : Json
  phase : Phase := .ready

/-- A value that was replaced, and the one that was written. -/
abbrev Change := Json × Json

/-- The change that a write made in the store. -/
def Write.made? (write : Write) : Option Change :=
  match write.phase with
  | .stored previous => some (previous, write.value)
  | .returned previous => some (previous, write.value)
  | _ => none

/-- The change that a write published. -/
def Write.told? (write : Write) : Option Change :=
  match write.phase with
  | .returned previous => some (previous, write.value)
  | _ => none

/-- The call of the write has come back, with or without a fault. -/
def Write.isOver (write : Write) : Bool :=
  match write.phase with
  | .returned _ => true
  | .failed _ => true
  | _ => false

/-- Writers of one variable, and a consumer of its changes. -/
structure Race where
  world : World
  writes : List Write
  /-- The changes in the order of the steps in the store. -/
  stored : List Change := []
  /-- The changes in the order of the steps on the bus. -/
  published : List Change := []
  /-- What the consumer was given, in this order. -/
  delivered : List Payload := []

/-- A step of a writer, or of the thread of the consumer. -/
inductive Move where
  | store (write : Nat)
  | publish (write : Nat)
  | deliver

namespace Race

/-- The start of a race: nobody has written. -/
def start (w : World) (values : List Json) : Race :=
  { world := w, writes := values.map fun value => { value } }

section

variable (c : Connection) (name : String) (channel : Nat)

/-- Takes a step of a race for a variable of a connection, with a consumer at a channel. A step
whose turn it is not does nothing. -/
def step (r : Race) : Move → Race
  | .store i =>
    match r.writes[i]? with
    | some ⟨value, .ready⟩ =>
      match r.world.storeSet c.store name value with
      | .ok (previous, w) => { r with
          world := w
          writes := r.writes.set i ⟨value, .stored previous⟩
          stored := r.stored ++ [(previous, value)] }
      | .error fault => { r with writes := r.writes.set i ⟨value, .failed fault⟩ }
    | _ => r
  | .publish i =>
    match r.writes[i]? with
    | some ⟨value, .stored previous⟩ => { r with
        world := { r.world with
          bus := (r.world.bus.publish c.exchange c.space (c.change name previous value)).2 }
        writes := r.writes.set i ⟨value, .returned previous⟩
        published := r.published ++ [(previous, value)] }
    | _ => r
  | .deliver =>
    match r.world.bus.take channel with
    | some (.deliver payload, bus) => { r with
        world := { r.world with bus }
        delivered := r.delivered ++ [payload] }
    | some (_, bus) => { r with world := { r.world with bus } }
    | none => r

def run (r : Race) (moves : List Move) : Race := moves.foldl (step c name channel) r

end

variable {c : Connection} {name : String} {channel : Nat}

/-- A write whose two steps nobody interrupts is a write through the connection. -/
theorem run_alone {r : Race} {i : Nat} {value previous : Json} {w : World}
    (hi : r.writes[i]? = some ⟨value, .ready⟩)
    (h : r.world.connectionSet c name value = .ok (previous, w)) :
    (run c name channel r [.store i, .publish i]).world = w ∧
      (run c name channel r [.store i, .publish i]).writes =
        r.writes.set i ⟨value, .returned previous⟩ := by
  obtain ⟨⟨old, w₁⟩, hstored, hpublished⟩ := bind_eq_ok.mp h
  cases hpublished
  have hlt : i < r.writes.length := (List.getElem?_eq_some_iff.mp hi).1
  have hstep : step c name channel r (.store i) = { r with
      world := w₁
      writes := r.writes.set i ⟨value, .stored previous⟩
      stored := r.stored ++ [(previous, value)] } := by
    simp only [step, hi, hstored]
  unfold run
  rw [List.foldl_cons, hstep, List.foldl_cons, List.foldl_nil]
  simp only [step, List.getElem?_set_self hlt, List.set_set]
  exact ⟨rfl, trivial⟩

theorem run_alone_of_fault {r : Race} {i : Nat} {value : Json} {fault : Fault}
    (hi : r.writes[i]? = some ⟨value, .ready⟩)
    (h : r.world.connectionSet c name value = .error fault) :
    run c name channel r [.store i, .publish i] =
      { r with writes := r.writes.set i ⟨value, .failed fault⟩ } := by
  have hlt : i < r.writes.length := (List.getElem?_eq_some_iff.mp hi).1
  have hstored : r.world.storeSet c.store name value = .error fault := by
    rcases bind_eq_error.mp h with hstored | ⟨changed, -, hpublished⟩
    · exact hstored
    · cases hpublished
  have hstep : step c name channel r (.store i) =
      { r with writes := r.writes.set i ⟨value, .failed fault⟩ } := by
    simp only [step, hi, hstored]
  unfold run
  rw [List.foldl_cons, hstep, List.foldl_cons, List.foldl_nil]
  simp [step, hlt]

end Race

/-! ## Successive changes -/

/-- Changes that follow one another from what is read first to what is read last: each replaces
what is read of the value before it. -/
def Successive (reads : Json → Except Fault Json) :
    Except Fault Json → List Change → Except Fault Json → Prop
  | first, [], last => first = last
  | first, (previous, value) :: rest, last =>
    first = .ok previous ∧ Successive reads (reads value) rest last

namespace Successive

variable {reads : Json → Except Fault Json} {first last last' : Except Fault Json}

/-- One more change goes on from the last. -/
theorem snoc {changes : List Change} {previous : Json}
    (h : Successive reads first changes (.ok previous)) (value : Json) :
    Successive reads first (changes ++ [(previous, value)]) (reads value) := by
  induction changes generalizing first with
  | nil => exact ⟨h, rfl⟩
  | cons change rest ih => exact ⟨h.1, ih h.2⟩

/-- What a change replaces is what is read first, or read of another change. -/
theorem previous_mem {changes : List Change} (h : Successive reads first changes last)
    {change : Change} (hchange : change ∈ changes) :
    .ok change.1 ∈ first :: changes.map (reads ·.2) := by
  induction changes generalizing first with
  | nil => cases hchange
  | cons head rest ih =>
    rcases List.mem_cons.mp hchange with rfl | hrest
    · rw [h.1]
      exact List.mem_cons_self
    · exact List.mem_cons_of_mem _ (ih h.2 hrest)

/-- Where all that is read differs, changes follow one another in one order only. -/
theorem eq_of_perm {changes changes' : List Change} (h : Successive reads first changes last)
    (h' : Successive reads first changes' last') (hperm : changes'.Perm changes)
    (hnodup : (first :: changes.map (reads ·.2)).Nodup) : changes' = changes := by
  -- On the changes: only the first of them replaces what is read first.
  induction changes generalizing first changes' with
  | nil => exact List.perm_nil.mp hperm
  | cons change rest ih =>
    cases changes' with
    | nil => exact absurd hperm.length_eq (by simp)
    | cons change' rest' =>
      rw [List.nodup_cons] at hnodup
      have hsame : change' = change := by
        rcases List.mem_cons.mp (hperm.subset List.mem_cons_self) with heq | hmem
        · exact heq
        · have hprevious := previous_mem h.2 hmem
          rw [← h'.1] at hprevious
          exact absurd hprevious hnodup.1
      subst hsame
      rw [ih h.2 h'.2 (List.perm_cons _ |>.mp hperm) hnodup.2]

end Successive

/-! ## The channel of a consumer -/

/-- The channel belongs to one binding, to this exchange and routing key, and is open. -/
structure Bus.Taps (b : Bus) (exchange routingKey : String) (channel : Nat) : Prop where
  bound : ∃ queue, b.bindings.filter (·.channel == channel) =
    [⟨exchange, routingKey, queue, channel⟩]
  isOpen : ∃ ch, b.channels[channel]? = some ch ∧ ch.isOpen = true

/-- The payloads that wait in a channel are these, and nothing else waits there. -/
def Bus.Awaits (b : Bus) (channel : Nat) (payloads : List Payload) : Prop :=
  b.channels[channel]?.map (·.waiting) = some (payloads.map .deliver)

/-- A queue that is bound has a channel of its own, where nothing waits. -/
theorem Bus.taps_of_bind {b b' : Bus} {exchange routingKey queue : String} {channel : Nat}
    (hrange : ∀ r ∈ b.bindings, r.channel < b.channels.length)
    (h : b.bind exchange routingKey queue = .ok (channel, b')) :
    b'.Taps exchange routingKey channel ∧ b'.Awaits channel [] := by
  unfold Bus.bind at h
  split at h
  · cases h
  · cases h
    refine ⟨⟨⟨queue, ?_⟩, ?_⟩, ?_⟩
    · have hnone : b.bindings.filter (·.channel == b.channels.length) = [] := by
        rw [List.filter_eq_nil_iff]
        intro r hr
        have hlt := hrange r hr
        simp
        omega
      rw [List.filter_append, hnone]
      simp
    · exact ⟨{ queue }, by simp, rfl⟩
    · simp [Bus.Awaits]

theorem Bus.foldl_send (b : Bus) (bound : List Binding) (e : Envelope) :
    (bound.foldl (fun b r => b.send r.channel e) b).bindings = b.bindings ∧
      ∀ channel : Nat, (bound.foldl (fun b r => b.send r.channel e) b).channels[channel]? =
        b.channels[channel]?.map fun ch =>
          (bound.filter (·.channel == channel)).foldl (fun ch _ => ch.send e) ch := by
  induction bound generalizing b with
  | nil => simp
  | cons r rest ih =>
    obtain ⟨hbindings, hchannels⟩ := ih (b.send r.channel e)
    rw [List.foldl_cons]
    refine ⟨hbindings, ?_⟩
    intro channel
    rw [hchannels, Bus.send, List.getElem?_modify]
    by_cases hr : r.channel = channel
    · rw [List.filter_cons_of_pos (by simpa using hr)]
      cases b.channels[channel]? <;> simp [hr]
    · rw [List.filter_cons_of_neg (by simpa using hr)]
      cases b.channels[channel]? <;> simp [hr]

/-- What is published for the consumer waits for it, once, behind all else. -/
theorem Bus.Taps.publish {b : Bus} {exchange routingKey : String} {channel : Nat}
    {payloads : List Payload} (h : b.Taps exchange routingKey channel)
    (hwaiting : b.Awaits channel payloads) (payload : Payload) :
    (b.publish exchange routingKey payload).2.Taps exchange routingKey channel ∧
      (b.publish exchange routingKey payload).2.Awaits channel (payloads ++ [payload]) := by
  obtain ⟨queue, hbound⟩ := h.bound
  obtain ⟨ch, hch, hopen⟩ := h.isOpen
  obtain ⟨hbindings, hchannels⟩ := b.foldl_send (b.routes exchange routingKey) (.deliver payload)
  have hone : (b.routes exchange routingKey).filter (·.channel == channel) =
      [⟨exchange, routingKey, queue, channel⟩] := by
    unfold Bus.routes
    rw [List.filter_comm, hbound]
    simp
  have hafter : (b.publish exchange routingKey payload).2.channels[channel]? =
      some (ch.send (.deliver payload)) := by
    unfold Bus.publish
    rw [hchannels, hch, hone]
    rfl
  refine ⟨⟨⟨queue, ?_⟩, _, hafter, ?_⟩, ?_⟩
  · rw [← hbound]
    exact congrArg (List.filter _) hbindings
  · simp [Channel.send, hopen]
  · unfold Bus.Awaits at hwaiting ⊢
    rw [hch] at hwaiting
    rw [hafter]
    simpa [Channel.send, hopen] using hwaiting

/-- The thread of the consumer takes out what waits first. -/
theorem Bus.Taps.take {b : Bus} {exchange routingKey : String} {channel : Nat}
    {payloads : List Payload} (h : b.Taps exchange routingKey channel)
    (hwaiting : b.Awaits channel payloads) :
    (payloads = [] ∧ b.take channel = none) ∨ ∃ payload rest b', payloads = payload :: rest ∧
      b.take channel = some (.deliver payload, b') ∧ b'.Taps exchange routingKey channel ∧
      b'.Awaits channel rest := by
  obtain ⟨ch, hch, hopen⟩ := h.isOpen
  have hlt : channel < b.channels.length := (List.getElem?_eq_some_iff.mp hch).1
  unfold Bus.Awaits at hwaiting
  rw [hch, Option.map_some, Option.some.injEq] at hwaiting
  unfold Bus.take
  rw [hch]
  cases payloads with
  | nil => exact .inl ⟨rfl, by simp [hwaiting]⟩
  | cons payload rest =>
    refine .inr ⟨payload, rest, { b with
      channels := b.channels.set channel { ch with waiting := rest.map .deliver } }, rfl, ?_, ?_, ?_⟩
    · simp [hwaiting]
    · exact ⟨h.bound, { ch with waiting := rest.map .deliver }, List.getElem?_set_self hlt, hopen⟩
    · simp [Bus.Awaits, hlt]

/-! ## What every race keeps -/

theorem filterMap_set_perm {α β : Type} {f : α → Option β} {items : List α} {i : Nat} {old new : α}
    {b : β} (hi : items[i]? = some old) (hold : f old = none) (hnew : f new = some b) :
    ((items.set i new).filterMap f).Perm (items.filterMap f ++ [b]) := by
  induction items generalizing i with
  | nil => cases hi
  | cons a rest ih =>
    cases i with
    | zero =>
      cases hi
      rw [List.set_cons_zero, List.filterMap_cons_some hnew, List.filterMap_cons_none hold]
      exact (List.perm_append_singleton b _).symm
    | succ i =>
      have hrest := ih (i := i) hi
      rw [List.set_cons_succ, List.filterMap_cons, List.filterMap_cons]
      cases f a with
      | none => exact hrest
      | some c => exact hrest.cons c

theorem filterMap_set_of_eq {α β : Type} {f : α → Option β} {items : List α} {i : Nat} {old new : α}
    (hi : items[i]? = some old) (hsame : f new = f old) :
    (items.set i new).filterMap f = items.filterMap f := by
  induction items generalizing i with
  | nil => cases hi
  | cons a rest ih =>
    cases i with
    | zero =>
      cases hi
      rw [List.set_cons_zero, List.filterMap_cons, List.filterMap_cons, hsame]
    | succ i => rw [List.set_cons_succ, List.filterMap_cons, List.filterMap_cons, ih (i := i) hi]

/-- What holds at every point of a race for a variable that a store holds at first. -/
structure Race.IsFair (c : Connection) (name : String) (channel : Nat) (s : Store) (flag : Bool)
    (r : Race) : Prop where
  /-- The changes in the store lead from its first value to the one that it holds. -/
  store : ∃ s' kept, r.world.stores[c.store]? = some s' ∧ s'.keeps = s.keeps ∧
    s'.kept? name = some (kept, flag) ∧ Successive s.readBack (s.get name) r.stored kept.read
  /-- Each write has changed the store once, or not yet. -/
  made : r.stored.Perm (r.writes.filterMap Write.made?)
  /-- Each write has published its change once, or not yet. -/
  told : r.published.Perm (r.writes.filterMap Write.told?)
  taps : r.world.bus.Taps c.exchange c.space channel
  /-- What was published arrives in this order. -/
  arrives : ∃ waiting, r.world.bus.Awaits channel waiting ∧
    r.delivered ++ waiting = r.published.map fun change => c.change name change.1 change.2

namespace Race

variable {c : Connection} {name : String} {channel : Nat} {s : Store} {flag : Bool} {r : Race}

theorem isFair_start {w : World} {b : Bus} {queue : String} {kept : Store.Kept}
    (hstore : w.stores[c.store]? = some s) (hkept : s.kept? name = some (kept, flag))
    (hrange : ∀ r ∈ b.bindings, r.channel < b.channels.length)
    (hbind : b.bind c.exchange c.space queue = .ok (channel, w.bus)) (values : List Json) :
    IsFair c name channel s flag (start w values) := by
  obtain ⟨htaps, hwaiting⟩ := Bus.taps_of_bind hrange hbind
  have hnone : ∀ f : Write → Option Change, (∀ value, f ⟨value, .ready⟩ = none) →
      (start w values).writes.filterMap f = [] := by
    intro f hf
    rw [List.filterMap_eq_nil_iff]
    intro write hwrite
    obtain ⟨value, -, rfl⟩ := List.mem_map.mp hwrite
    exact hf value
  refine ⟨⟨s, kept, hstore, rfl, hkept, Store.get_of_kept hkept⟩, ?_, ?_, htaps, [], hwaiting, rfl⟩
  · rw [hnone Write.made? fun _ => rfl]
    rfl
  · rw [hnone Write.told? fun _ => rfl]
    rfl

theorem IsFair.storeStep (h : IsFair c name channel s flag r) (i : Nat) :
    IsFair c name channel s flag (step c name channel r (.store i)) := by
  obtain ⟨s', kept, hs', hkeeps, hkept, hchain⟩ := h.store
  unfold step
  simp only
  split
  · rename_i value hi
    rw [World.storeSet_of_kept hs' hkept]
    cases hread : kept.read with
    | error fault =>
      have hmade : (r.writes.set i ⟨value, .failed fault⟩).filterMap Write.made? =
          r.writes.filterMap Write.made? := filterMap_set_of_eq hi rfl
      have htold : (r.writes.set i ⟨value, .failed fault⟩).filterMap Write.told? =
          r.writes.filterMap Write.told? := filterMap_set_of_eq hi rfl
      exact ⟨h.store, hmade ▸ h.made, htold ▸ h.told, h.taps, h.arrives⟩
    | ok previous =>
      have hmade : ((r.writes.set i ⟨value, .stored previous⟩).filterMap Write.made?).Perm
          (r.writes.filterMap Write.made? ++ [(previous, value)]) := filterMap_set_perm hi rfl rfl
      have htold : (r.writes.set i ⟨value, .stored previous⟩).filterMap Write.told? =
          r.writes.filterMap Write.told? := filterMap_set_of_eq hi rfl
      have hlt : c.store < r.world.stores.length := (List.getElem?_eq_some_iff.mp hs').1
      rw [hread] at hchain
      refine ⟨⟨s'.put name value flag, s.keeps value, List.getElem?_set_self hlt, ?_, ?_, ?_⟩,
        (h.made.append_right _).trans hmade.symm, htold ▸ h.told, h.taps, h.arrives⟩
      · rw [Store.keeps_put, hkeeps]
      · rw [Store.kept_put, if_pos rfl, hkeeps]
      · rw [Store.read_keeps]
        exact hchain.snoc value
  · exact h

theorem IsFair.publishStep (h : IsFair c name channel s flag r) (i : Nat) :
    IsFair c name channel s flag (step c name channel r (.publish i)) := by
  unfold step
  simp only
  split
  · rename_i value previous hi
    obtain ⟨waiting, hwaiting, harrives⟩ := h.arrives
    obtain ⟨htaps, hmore⟩ := h.taps.publish hwaiting (c.change name previous value)
    have hmade : (r.writes.set i ⟨value, .returned previous⟩).filterMap Write.made? =
        r.writes.filterMap Write.made? := filterMap_set_of_eq hi rfl
    have htold : ((r.writes.set i ⟨value, .returned previous⟩).filterMap Write.told?).Perm
        (r.writes.filterMap Write.told? ++ [(previous, value)]) := filterMap_set_perm hi rfl rfl
    refine ⟨h.store, hmade ▸ h.made, (h.told.append_right _).trans htold.symm, htaps, _, hmore, ?_⟩
    rw [← List.append_assoc, harrives]
    simp
  · exact h

theorem IsFair.deliverStep (h : IsFair c name channel s flag r) :
    IsFair c name channel s flag (step c name channel r .deliver) := by
  obtain ⟨waiting, hwaiting, harrives⟩ := h.arrives
  unfold step
  rcases h.taps.take hwaiting with ⟨-, hnone⟩ | ⟨payload, rest, b, rfl, htake, htaps, hrest⟩
  · simp only [hnone]
    exact h
  · simp only [htake]
    refine ⟨h.store, h.made, h.told, htaps, rest, hrest, ?_⟩
    rw [← harrives]
    simp

/-- So it is after any steps, in whatever order they are taken. -/
theorem IsFair.run (h : IsFair c name channel s flag r) (moves : List Move) :
    IsFair c name channel s flag (run c name channel r moves) := by
  induction moves generalizing r with
  | nil => exact h
  | cons move rest ih =>
    cases move with
    | store i => exact ih (h.storeStep i)
    | publish i => exact ih (h.publishStep i)
    | deliver => exact ih h.deliverStep

/-- When all writes are over, each change in the store was published. -/
theorem IsFair.published_perm (h : IsFair c name channel s flag r)
    (hover : ∀ write ∈ r.writes, write.isOver = true) : r.published.Perm r.stored := by
  have hsame : r.writes.filterMap Write.told? = r.writes.filterMap Write.made? := by
    apply List.filterMap_congr
    rintro ⟨value, phase⟩ hwrite
    have hend := hover _ hwrite
    cases phase with
    | ready => cases hend
    | stored previous => cases hend
    | returned previous => rfl
    | failed fault => rfl
  exact h.told.trans (hsame ▸ h.made.symm)

/-- When nothing waits any more, all that was published was delivered. -/
theorem IsFair.delivered_eq (h : IsFair c name channel s flag r)
    (hdrained : r.world.bus.waitingIn channel = 0) :
    r.delivered = r.published.map fun change => c.change name change.1 change.2 := by
  obtain ⟨waiting, hwaiting, harrives⟩ := h.arrives
  have hnone : waiting = [] := by
    unfold Bus.Awaits at hwaiting
    obtain ⟨ch, hch, heq⟩ := Option.map_eq_some_iff.mp hwaiting
    unfold Bus.waitingIn at hdrained
    rw [hch] at hdrained
    simpa [heq] using hdrained
  simpa [hnone] using harrives

end Race

/-- Clients write a variable through a connection, each in two steps and in any order, and a
consumer is bound for its changes before the first. When all writes are over and nothing waits, the
consumer was given the changes in the order in which they were published. Where this is the order
of the steps in the store, they lead from the first value to the one in the store, each from what
is read of the one before; and where no two of the values are read alike, only then. -/
theorem changes_are_successive_where_published_as_stored {c : Connection} {name queue : String}
    {channel : Nat} {w : World} {b : Bus} {s : Store} {kept : Store.Kept} {flag : Bool}
    (hstore : w.stores[c.store]? = some s) (hkept : s.kept? name = some (kept, flag))
    (hrange : ∀ binding ∈ b.bindings, binding.channel < b.channels.length)
    (hbind : b.bind c.exchange c.space queue = .ok (channel, w.bus))
    (values : List Json) (moves : List Move) {r : Race}
    (hrun : Race.run c name channel (Race.start w values) moves = r)
    (hover : ∀ write ∈ r.writes, write.isOver = true)
    (hdrained : r.world.bus.waitingIn channel = 0) :
    ∃ s', r.world.stores[c.store]? = some s' ∧
      r.delivered = (r.published.map fun change => c.change name change.1 change.2) ∧
      (r.published = r.stored →
        Successive s.readBack (s.get name) r.published (s'.get name)) ∧
      ((s.get name :: r.stored.map (s.readBack ·.2)).Nodup →
        (Successive s.readBack (s.get name) r.published (s'.get name) ↔
          r.published = r.stored)) := by
  have hfair : Race.IsFair c name channel s flag r := by
    rw [← hrun]
    exact (Race.isFair_start hstore hkept hrange hbind values).run moves
  obtain ⟨s', last, hs', -, hlast, hchain⟩ := hfair.store
  rw [← Store.get_of_kept hlast] at hchain
  refine ⟨s', hs', hfair.delivered_eq hdrained, ?_, ?_⟩
  · intro hsame
    rw [hsame]
    exact hchain
  · intro hnodup
    constructor
    · intro hpublished
      exact hchain.eq_of_perm hpublished (hfair.published_perm hover) hnodup
    · intro hsame
      rw [hsame]
      exact hchain

/-- A connection and a world in which a consumer waits for the changes of its root. -/
def loadConnection : Connection := { space := "cpu", exchange := "demo.Cpu", store := 0 }

def loadWorld : World where
  stores := [.memory [("cpu.load", .null, false)]]
  bus := { bindings := [⟨"demo.Cpu", "cpu", "watch", 0⟩], channels := [{ queue := "watch" }] }

theorem two_writes_in_turn_are_successive :
    ∃ r, Race.run loadConnection "cpu.load" 0 (Race.start loadWorld [.bool false, .bool true])
        [.store 0, .store 1, .publish 0, .deliver, .publish 1, .deliver] = r ∧
      r.delivered = [.change "load" .null (.bool false),
        .change "load" (.bool false) (.bool true)] ∧
      Successive .ok (.ok .null) r.published (.ok (.bool true)) := by
  refine ⟨_, rfl, rfl, ?_⟩
  have hstore : loadWorld.stores[loadConnection.store]? =
      some (.memory [("cpu.load", .null, false)]) := rfl
  have hkept : (Store.memory [("cpu.load", .null, false)]).kept? "cpu.load" =
      some (.value .null, false) := rfl
  have hrange : ∀ binding ∈ ({} : Bus).bindings, binding.channel < ({} : Bus).channels.length := by
    simp
  have hbind : ({} : Bus).bind loadConnection.exchange loadConnection.space "watch" =
      .ok (0, loadWorld.bus) := rfl
  obtain ⟨s', hs', -, hchain, -⟩ := changes_are_successive_where_published_as_stored hstore hkept
    hrange hbind [.bool false, .bool true]
    [.store 0, .store 1, .publish 0, .deliver, .publish 1, .deliver] rfl (by decide) rfl
  cases hs'
  exact hchain rfl

/-- Two writers overtake each other between their steps: the change that is delivered first
replaces a value that no change before it wrote. -/
theorem changes_published_out_of_turn_are_not_successive :
    ∃ r, Race.run loadConnection "cpu.load" 0 (Race.start loadWorld [.bool false, .bool true])
        [.store 0, .store 1, .publish 1, .publish 0, .deliver, .deliver] = r ∧
      (∀ write ∈ r.writes, write.isOver = true) ∧ r.world.bus.waitingIn 0 = 0 ∧
      r.world.storeGet 0 "cpu.load" = .ok (.bool true) ∧
      ∀ changes, r.delivered = changes.map (fun change =>
          loadConnection.change "cpu.load" change.1 change.2) →
        ¬ Successive .ok (.ok .null) changes (.ok (.bool true)) := by
  refine ⟨_, rfl, by decide, rfl, rfl, ?_⟩
  intro changes hdelivered hsuccessive
  change [loadConnection.change "cpu.load" (.bool false) (.bool true),
    loadConnection.change "cpu.load" .null (.bool false)] = _ at hdelivered
  cases changes with
  | nil => cases hdelivered
  | cons change rest =>
    have hfirst := (Payload.change.inj (List.cons.inj hdelivered).1).2.1
    rw [← Except.ok.inj hsuccessive.1] at hfirst
    cases hfirst

end Watchtower.Live
