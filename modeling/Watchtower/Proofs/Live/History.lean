-- The steps of a bus. Publishers, flushes and one thread for each bound queue take their steps in
-- any order, and a history notes what happens. A publish is taken whole or channel by channel; in
-- the second case others come between, so two queues of one pair may get what overlapping publishes
-- send in different orders.
import Watchtower.Proofs.Live.Channels

namespace Watchtower.Live

/-! ## Histories -/

/-- What happens on a bus. A bound queue is known by the number of its channel. -/
inductive Happening where
  | bound (channel : Nat) (exchange routingKey : String)
  | unbound (channel : Nat)
  /-- A publish was taken whole. -/
  | published (exchange routingKey : String) (payload : Payload)
  | publishBegan (publish : Nat) (exchange routingKey : String) (payload : Payload)
  /-- A publish that is under way has sent into a channel. -/
  | sent (publish channel : Nat) (exchange routingKey : String) (payload : Payload)
  | publishEnded (publish : Nat)
  | flushBegan (flush : Nat)
  /-- All answers for which the flush waited have come. -/
  | flushEnded (flush : Nat)
  /-- The callback is called. -/
  | called (channel : Nat) (payload : Payload)
  /-- The callback has come back, or crashed. -/
  | handled (channel : Nat) (payload : Payload) (crashed : Bool)
  /-- The thread has ended. -/
  | ended (channel : Nat)

namespace Happening

/-- The exchange and the routing key to which a channel is bound after a history. In histories the
latest stands first. -/
def pairOf? (channel : Nat) : List Happening → Option (String × String)
  | [] => none
  | .bound other exchange routingKey :: past =>
    if other = channel then some (exchange, routingKey) else pairOf? channel past
  | .unbound other :: past => if other = channel then none else pairOf? channel past
  | _ :: past => pairOf? channel past

/-- What was published to the pair of a channel while it was bound, the first at the front. What is
published channel by channel counts from when it was sent into this one. -/
def addressed (channel : Nat) : List Happening → List Payload
  | [] => []
  | .published exchange routingKey payload :: past =>
    if pairOf? channel past = some (exchange, routingKey) then addressed channel past ++ [payload]
    else addressed channel past
  | .sent _ other exchange routingKey payload :: past =>
    if other = channel ∧ pairOf? channel past = some (exchange, routingKey) then
      addressed channel past ++ [payload]
    else addressed channel past
  | _ :: past => addressed channel past

/-- With what the callback of a channel was called. -/
def calledWith (channel : Nat) : List Happening → List Payload
  | [] => []
  | .called other payload :: past =>
    if other = channel then calledWith channel past ++ [payload] else calledWith channel past
  | _ :: past => calledWith channel past

/-- What the callback of a channel has handled, well or not. -/
def handledBy (channel : Nat) : List Happening → List Payload
  | [] => []
  | .handled other payload _ :: past =>
    if other = channel then handledBy channel past ++ [payload] else handledBy channel past
  | _ :: past => handledBy channel past

/-- The happening is that of a publish. -/
def isPublishing : Happening → Bool
  | .published .. | .publishBegan .. | .sent .. | .publishEnded .. => true
  | _ => false

/-- The happening is that of a publish taken channel by channel. -/
def isStepwise : Happening → Bool
  | .publishBegan .. | .sent .. | .publishEnded .. => true
  | _ => false

/-- A publish tells nothing of bindings and of threads. -/
theorem cons_of_isPublishing {new : Happening} (h : new.isPublishing = true)
    (past : List Happening) : (∀ i, pairOf? i (new :: past) = pairOf? i past) ∧
      (∀ i, calledWith i (new :: past) = calledWith i past) ∧
      ∀ i, handledBy i (new :: past) = handledBy i past := by
  cases new with
  | published | publishBegan | sent | publishEnded =>
    exact ⟨fun _ => rfl, fun _ => rfl, fun _ => rfl⟩
  | _ => cases h

theorem ne_of_isPublishing {new : Happening} (h : new.isPublishing = true) :
    (∀ flush, new ≠ .flushBegan flush) ∧ (∀ flush, new ≠ .flushEnded flush) ∧
      ∀ i, new ≠ .ended i := by
  refine ⟨?_, ?_, ?_⟩
  all_goals
    rintro n rfl
    cases h

end Happening

open Happening

/-! ## Steps -/

/-- A publish that is under way. -/
structure Publishing where
  exchange : String
  routingKey : String
  payload : Payload
  /-- The channels into which it has still to send, the next one first. -/
  remaining : List Nat

/-- A bus with its threads. -/
structure Traffic where
  bus : Bus := {}
  /-- How many publishes began that are taken channel by channel. -/
  publishes : Nat := 0
  /-- What a publish has still to do. -/
  sending : Nat → Option Publishing := fun _ => none
  /-- The payload at which the thread of a channel is. -/
  busy : Nat → Option Payload := fun _ => none
  /-- For how many answers a flush waits. -/
  awaited : Nat → Nat := fun _ => 0
  /-- How many answers a flush has got. -/
  answers : Nat → Nat := fun _ => 0
  history : List Happening := []

namespace Traffic

/-- A call on the bus, or a step of a thread. A flush is two steps, between which others come; so is
a publish that is taken channel by channel, with a step for each channel. -/
inductive Step where
  | bind (exchange routingKey queue : String)
  | unbind (queue : String)
  | publish (exchange routingKey : String) (payload : Payload)
  | beginPublish (exchange routingKey : String) (payload : Payload)
  /-- A publish sends into the next channel. -/
  | send (publish : Nat)
  | endPublish (publish : Nat)
  | beginFlush
  | endFlush (flush : Nat)
  /-- The thread of a channel takes the next envelope. -/
  | take (channel : Nat)
  /-- The callback comes back, or crashes. -/
  | finish (channel : Nat) (crashed : Bool)

/-- The step is one of a publish taken channel by channel. -/
def Step.isStepwise : Step → Bool
  | .beginPublish .. | .send _ | .endPublish _ => true
  | _ => false

/-- A publish is under way: it reads the bindings, and nobody writes them. -/
def isReading (t : Traffic) : Bool :=
  (List.range t.publishes).any fun publish => (t.sending publish).isSome

/-- Takes a step. A step whose turn it is not does nothing: a thread takes no envelope while its
callback is at work, a flush does not end before all its answers have come, and no queue is bound or
unbound while a publish is under way. -/
def step (t : Traffic) : Step → Traffic
  | .bind exchange routingKey queue =>
    if t.isReading then t
    else
      match t.bus.bind exchange routingKey queue with
      | .ok (channel, bus) =>
        { t with bus, history := .bound channel exchange routingKey :: t.history }
      | .error _ => t
  | .unbind queue =>
    if t.isReading then t
    else
      match t.bus.bindings.find? (·.queue == queue) with
      | some r => { t with bus := t.bus.unbind queue, history := .unbound r.channel :: t.history }
      | none => { t with bus := t.bus.unbind queue }
  | .publish exchange routingKey payload => { t with
      bus := (t.bus.publish exchange routingKey payload).2
      history := .published exchange routingKey payload :: t.history }
  | .beginPublish exchange routingKey payload => { t with
      publishes := t.publishes + 1
      sending := Function.update t.sending t.publishes (some
        ⟨exchange, routingKey, payload, (t.bus.routes exchange routingKey).map (·.channel)⟩)
      history := .publishBegan t.publishes exchange routingKey payload :: t.history }
  | .send publish =>
    match t.sending publish with
    | some ⟨exchange, routingKey, payload, channel :: rest⟩ => { t with
        bus := t.bus.send channel (.deliver payload)
        sending := Function.update t.sending publish (some ⟨exchange, routingKey, payload, rest⟩)
        history := .sent publish channel exchange routingKey payload :: t.history }
    | _ => t
  | .endPublish publish =>
    match t.sending publish with
    | some ⟨_, _, _, []⟩ => { t with
        sending := Function.update t.sending publish none
        history := .publishEnded publish :: t.history }
    | _ => t
  | .beginFlush => { t with
      bus := t.bus.beginFlush
      awaited := Function.update t.awaited t.bus.flushes
        (t.bus.bindings.countP (t.bus.isOpen ·.channel))
      history := .flushBegan t.bus.flushes :: t.history }
  | .endFlush flush =>
    if flush < t.bus.flushes ∧ t.awaited flush ≤ t.answers flush then
      { t with history := .flushEnded flush :: t.history }
    else t
  | .take channel =>
    match t.busy channel, t.bus.take channel with
    | none, some (.deliver payload, bus) => { t with
        bus
        busy := Function.update t.busy channel (some payload)
        history := .called channel payload :: t.history }
    | none, some (.barrier flush, bus) => { t with
        bus
        answers := Function.update t.answers flush (t.answers flush + 1) }
    | none, some (.shutdown, bus) => { t with bus, history := .ended channel :: t.history }
    | _, _ => t
  | .finish channel crashed =>
    match t.busy channel with
    | some payload => { t with
        busy := Function.update t.busy channel none
        history := .handled channel payload crashed :: t.history }
    | none => t

/-- The traffic of some steps on a new bus. -/
def run (steps : List Step) : Traffic := steps.foldl step {}

end Traffic

/-! ## Envelopes that wait -/

/-- The payloads that a thread will still take out. -/
def toDeliver : List Envelope → List Payload
  | [] => []
  | .deliver payload :: rest => payload :: toDeliver rest
  | .barrier _ :: rest => toDeliver rest
  | .shutdown :: _ => []

/-- The payloads that a thread takes out before the barrier of a flush. -/
def ahead (flush : Nat) : List Envelope → List Payload
  | [] => []
  | .deliver payload :: rest => payload :: ahead flush rest
  | .barrier n :: rest => if n = flush then [] else ahead flush rest
  | .shutdown :: _ => []

theorem toDeliver_append_deliver {waiting : List Envelope} (h : .shutdown ∉ waiting)
    (payload : Payload) : toDeliver (waiting ++ [.deliver payload]) =
      toDeliver waiting ++ [payload] := by
  induction waiting with
  | nil => rfl
  | cons e rest ih =>
    rw [List.mem_cons, not_or] at h
    cases e with
    | deliver first => exact congrArg (first :: ·) (ih h.2)
    | barrier n => exact ih h.2
    | shutdown => exact absurd rfl h.1

theorem toDeliver_append_of_nil (waiting : List Envelope) {extra : List Envelope}
    (h : toDeliver extra = []) : toDeliver (waiting ++ extra) = toDeliver waiting := by
  induction waiting with
  | nil => exact h
  | cons e rest ih =>
    cases e with
    | deliver first => exact congrArg (first :: ·) ih
    | barrier n => exact ih
    | shutdown => rfl

theorem ahead_append {flush : Nat} {waiting : List Envelope} (h : .barrier flush ∈ waiting)
    (extra : List Envelope) : ahead flush (waiting ++ extra) = ahead flush waiting := by
  induction waiting with
  | nil => cases h
  | cons e rest ih =>
    cases e with
    | deliver first =>
      exact congrArg (first :: ·) (ih (by simpa using h))
    | barrier n =>
      simp only [List.cons_append, ahead]
      split
      · rfl
      · rename_i hne
        apply ih
        rcases List.mem_cons.mp h with heq | hrest
        · cases heq
          exact absurd rfl hne
        · exact hrest
    | shutdown => rfl

/-- All that waits is ahead of a new barrier. -/
theorem ahead_barrier {flush : Nat} {waiting : List Envelope} (h : .barrier flush ∉ waiting) :
    ahead flush (waiting ++ [.barrier flush]) = toDeliver waiting := by
  induction waiting with
  | nil => simp [ahead, toDeliver]
  | cons e rest ih =>
    rw [List.mem_cons, not_or] at h
    cases e with
    | deliver first => exact congrArg (first :: ·) (ih h.2)
    | barrier n =>
      have hne : n ≠ flush := fun heq => h.1 (heq ▸ rfl)
      simp only [List.cons_append, ahead, if_neg hne]
      exact ih h.2
    | shutdown => rfl

/-- What had been published when a flush began is ahead of its barrier, and when the barrier is gone
it is handled. -/
structure Covers (flush : Nat) (told handled : List Payload) (busy : Option Payload)
    (waiting : List Envelope) : Prop where
  waits : .barrier flush ∈ waiting → told <+: handled ++ busy.toList ++ ahead flush waiting
  passed : .barrier flush ∉ waiting → told <+: handled

namespace Covers

variable {flush : Nat} {told handled : List Payload} {busy : Option Payload}
  {waiting : List Envelope}

theorem of_handled (h : told <+: handled) (waiting : List Envelope) :
    Covers flush told handled busy waiting where
  waits _ := by
    rw [List.append_assoc]
    exact h.trans (List.prefix_append _ _)
  passed _ := h

theorem append (h : Covers flush told handled busy waiting) (extra : List Envelope) :
    Covers flush told handled busy (waiting ++ extra) := by
  by_cases hmem : .barrier flush ∈ waiting
  · refine ⟨fun _ => ?_, fun hnot => absurd (List.mem_append_left _ hmem) hnot⟩
    rw [ahead_append hmem]
    exact h.waits hmem
  · exact .of_handled (h.passed hmem) _

theorem deliver {payload : Payload}
    (h : Covers flush told handled none (.deliver payload :: waiting)) :
    Covers flush told handled (some payload) waiting where
  waits hmem := by simpa [ahead] using h.waits (List.mem_cons_of_mem _ hmem)
  passed hmem := h.passed (by simpa using hmem)

theorem barrier {n : Nat} (h : Covers flush told handled none (.barrier n :: waiting)) :
    Covers flush told handled none waiting := by
  by_cases hn : n = flush
  · subst hn
    exact .of_handled (by simpa [ahead] using h.waits List.mem_cons_self) _
  · refine ⟨fun hmem => ?_, fun hmem => h.passed ?_⟩
    · simpa [ahead, hn] using h.waits (List.mem_cons_of_mem _ hmem)
    · simpa [Ne.symm hn] using hmem

theorem shutdown (h : Covers flush told handled none (.shutdown :: waiting)) :
    told <+: handled := by
  by_cases hmem : .barrier flush ∈ waiting
  · simpa [ahead] using h.waits (List.mem_cons_of_mem _ hmem)
  · exact h.passed (by simpa using hmem)

theorem finish {payload : Payload} (h : Covers flush told handled (some payload) waiting) :
    Covers flush told (handled ++ [payload]) none waiting where
  waits hmem := by simpa using h.waits hmem
  passed hmem := (h.passed hmem).trans (List.prefix_append _ _)

end Covers

end Watchtower.Live
