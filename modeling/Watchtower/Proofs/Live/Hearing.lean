-- What is heard of a payload. Where the reactions of all observers do nothing but take notes, a
-- payload that is handed to a consumer changes nothing but the journal.
import Watchtower.Proofs.Live.Run

namespace Watchtower.Live

/-! ## Bodies that take notes -/

namespace Body

/-- The body does nothing but take notes. -/
def IsNoting : Body → Prop
  | .done => True
  | .note _ _ next => next.IsNoting
  | _ => False

/-- The entries that a body that takes notes writes on a thread. -/
def entries (thread : String) : Body → List JournalEntry
  | .note who entry next => ⟨thread, who, entry⟩ :: next.entries thread
  | _ => []

end Body

/-- A world with more entries in its journal. -/
def World.noted (w : World) (entries : List JournalEntry) : World :=
  { w with journal := w.journal ++ entries }

@[simp] theorem World.noted_nil (w : World) : w.noted [] = w := by
  simp [World.noted]

theorem World.noted_noted (w : World) (first second : List JournalEntry) :
    (w.noted first).noted second = w.noted (first ++ second) := by
  simp [World.noted]

theorem Body.run_of_isNoting (answer : Request → Run Json) (thread : String) :
    ∀ body : Body, body.IsNoting → ∀ w : World,
      body.run answer thread w = (.ok (), w.noted (body.entries thread))
  | .done, _, w => by
    rw [Body.run, Body.entries, World.noted_nil]
    · rfl
    · simp
  | .note who entry next, h, w => by
    rw [Body.run, modify_bind, Body.run_of_isNoting answer thread next h, Body.entries]
    simp [World.note, World.noted]

/-- A body that takes notes ends well, and its entries are all that it leaves. -/
theorem Body.perform_of_isNoting {body : Body} (h : body.IsNoting) (thread : String) (w : World) :
    body.perform thread w = (.ok (), w.noted (body.entries thread)) :=
  Body.run_of_isNoting _ thread body h w

/-! ## Observers -/

/-- What an observer notes of a payload. -/
def World.heardBy (w : World) (thread : String) (payload : Payload) (o : Observer) :
    List JournalEntry :=
  if payload.kind = o.kind ∧ w.isAlive o.owner then (o.react payload).entries thread else []

theorem notifyObserver_of_isNoting {o : Observer} {payload : Payload}
    (h : (o.react payload).IsNoting) (thread : String) (w : World) :
    notifyObserver thread payload o w = (.ok (), w.noted (w.heardBy thread payload o)) := by
  unfold notifyObserver World.heardBy
  rw [get_bind]
  by_cases hc : payload.kind = o.kind ∧ w.isAlive o.owner
  · rw [if_pos hc, if_pos hc]
    rw [bind_of_ok (Run.attempt_of_ok (Body.perform_of_isNoting h thread w))]
    rfl
  · rw [if_neg hc, if_neg hc, World.noted_nil]
    rfl

theorem notifyObservers_of_isNoting {observers : List Observer} {payload : Payload}
    (h : ∀ o ∈ observers, (o.react payload).IsNoting) (thread : String) (w : World) :
    observers.forM (notifyObserver thread payload) w =
      (.ok (), w.noted (observers.flatMap (w.heardBy thread payload))) := by
  induction observers generalizing w with
  | nil => rw [List.flatMap_nil, World.noted_nil]; rfl
  | cons o rest ih =>
    have hfirst := notifyObserver_of_isNoting (h o (by simp)) thread w
    rw [forM_cons_of_ok hfirst, ih fun o ho => h o (by simp [ho]), World.noted_noted,
      List.flatMap_cons]
    rfl

/-! ## Consumers -/

/-- The observers of all sources do nothing but take notes. -/
def World.IsNoting (w : World) : Prop :=
  ∀ s ∈ w.sources, ∀ o ∈ s.observers, ∀ payload, (o.react payload).IsNoting

/-- What is noted when a payload is handed to a source. -/
def World.heardAt (w : World) (thread : String) (payload : Payload) (source : Nat) :
    List JournalEntry :=
  match w.sources[source]? with
  | none => []
  | some s =>
    if s.accepts payload && !s.paused then s.observers.flatMap (w.heardBy thread payload) else []

/-- What is noted when a payload is handed to a consumer. -/
def World.heard (w : World) (payload : Payload) (c : Consumer) : List JournalEntry :=
  match c.listener with
  | .callback react => (react payload).entries c.config.queue
  | .source number => w.heardAt c.config.queue payload number

/-- A source that is handed a payload leaves what is heard of it. -/
theorem receive_of_isNoting {w : World} (h : w.IsNoting) (thread : String) (payload : Payload)
    (number : Nat) : Listener.receive thread payload (.source number) w =
      (.ok (), w.noted (w.heardAt thread payload number)) := by
  unfold Listener.receive World.heardAt
  simp only []
  rw [get_bind]
  cases hs : w.sources[number]? with
  | none => simp; rfl
  | some s =>
    cases hacc : s.accepts payload with
    | false => simp [hacc]; rfl
    | true =>
      simp only [Option.any_some, hacc, if_true, Bool.true_and]
      have hnotify : notifySource thread number payload w =
          (.ok (if s.paused then 0 else s.observers.length),
            w.noted (if !s.paused then s.observers.flatMap (w.heardBy thread payload)
              else [])) := by
        unfold notifySource
        rw [get_bind, hs]
        simp only []
        cases hp : s.paused with
        | true => simp; rfl
        | false =>
          have hnoting : ∀ o ∈ s.observers, (o.react payload).IsNoting :=
            fun o ho => h s (List.mem_of_getElem? hs) o ho payload
          simp only [Bool.false_eq_true, if_false, Bool.not_false, if_true]
          rw [bind_of_ok (notifyObservers_of_isNoting hnoting thread w)]
          rfl
      rw [bind_of_ok hnotify]
      rfl

end Watchtower.Live
