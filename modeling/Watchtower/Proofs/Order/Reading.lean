-- Code that reads. A code block may note things and look up the variables of its monitor and of the
-- namespaces that are bound in it. As long as the number of its monitor makes no difference to it,
-- it has no effects.
import Watchtower.Proofs.Order.Code

namespace Watchtower.Live

/-! ## Requests -/

/-- The requests read the same, each at the monitor with its number. -/
inductive RequestOf.ReadsAlike (number number' : Nat) : Request → Request → Prop where
  | recalls (name : String) :
      ReadsAlike number number' (.recall number name) (.recall number' name)
  | reaches (root : String) (path : List String) :
      ReadsAlike number number' (.reaches number root path) (.reaches number' root path)
  | get (root : String) (path : List String) (name : String) :
      ReadsAlike number number' (.get number root path name) (.get number' root path name)

/-- The request only reads. -/
def RequestOf.IsRead (request : Request) : Prop :=
  ∃ number, RequestOf.ReadsAlike number number request request

section Nodes

variable {w w' : World}

/-- Nodes that look alike have children that look alike. -/
theorem viewHandle_descend {h h' : Handle} (hview : w'.viewHandle h' = w.viewHandle h)
    (path : List String) :
    (h'.descend? path).map w'.viewHandle = (h.descend? path).map w.viewHandle := by
  induction path generalizing h h' with
  | nil => exact congrArg some hview
  | cons name rest ih =>
    obtain ⟨proxy, connection, root⟩ := h
    obtain ⟨proxy', connection', root'⟩ := h'
    simp only [World.viewHandle, HandleView.mk.injEq] at hview
    obtain ⟨rfl, hconnection, -⟩ := hview
    rw [Handle.descend?, Handle.descend?]
    unfold Handle.child?
    cases proxy'.child? name with
    | none => rfl
    | some child =>
      refine ih ?_
      simp only [World.viewHandle, hconnection]

/-- The same is read through nodes that look alike, where the stores are the same. -/
theorem get_of_viewHandle {h h' : Handle} (hview : w'.viewHandle h' = w.viewHandle h)
    (hstores : w'.stores = w.stores) (name : String) : w'.get h' name = w.get h name := by
  obtain ⟨proxy, connection, root⟩ := h
  obtain ⟨proxy', connection', root'⟩ := h'
  simp only [World.viewHandle, HandleView.mk.injEq] at hview
  obtain ⟨rfl, hconnection, -⟩ := hview
  have hheld : ∀ (w : World) (number : Option Nat), number.bind w.connection? =
      (number.bind (w.connections[·]?)).filter (0 < ·.holders) := by
    intro w number
    cases number <;> rfl
  have hread : ∀ c name, w'.connectionGet c name = w.connectionGet c name := by
    intro c name
    unfold World.connectionGet World.storeGet World.store
    rw [hstores]
  unfold World.get World.connectionOf
  simp only [hheld, hconnection, hread]

end Nodes

section Requests

variable {number number' : Nat} {w w' : World}

theorem LooksFrom.reach (h : World.LooksFrom number w number' w') (root : String)
    (path : List String) :
    (∃ fault, w.reach number root path = .error fault ∧
      w'.reach number' root path = .error fault) ∨
    ∃ node node', w.reach number root path = .ok node ∧ w'.reach number' root path = .ok node' ∧
      node'.map w'.viewHandle = node.map w.viewHandle := by
  obtain ⟨-, v, ⟨m, hm, hlooks⟩, m', hm', hlooks'⟩ := h
  have hsame : (m'.proxies.lookup root).map w'.viewHandle =
      (m.proxies.lookup root).map w.viewHandle :=
    (hlooks'.proxies root).trans (hlooks.proxies root).symm
  have hreach : ∀ {w : World} {number : Nat} {m : Monitor}, w.monitors[number]? = some m →
      w.reach number root path = (m.space root).map (·.descend? path) := by
    intro w number m hm
    unfold World.reach
    rw [monitor_eq_ok hm]
    show (m.space root >>= fun h => _) = _
    cases m.space root <;> rfl
  rw [hreach hm, hreach hm']
  unfold Monitor.space
  cases hlookup : m.proxies.lookup root with
  | none =>
    rw [hlookup, Option.map_none, Option.map_eq_none_iff] at hsame
    rw [hsame]
    exact .inl ⟨_, rfl, rfl⟩
  | some handle =>
    rw [hlookup, Option.map_some, Option.map_eq_some_iff] at hsame
    obtain ⟨handle', hlookup', hview⟩ := hsame
    rw [hlookup']
    exact .inr ⟨_, _, rfl, rfl, viewHandle_descend hview path⟩

/-- What is asked in two worlds with one outcome is answered the same, and leaves both. -/
theorem ask_alike {α : Type} {f f' : World → Except Fault α} (h : f w = f' w') :
    ∃ outcome : Except Fault α, Run.attempt (Run.ask f) w = (.ok outcome, w) ∧
      Run.attempt (Run.ask f') w' = (.ok outcome, w') := by
  refine ⟨f w, ?_⟩
  cases hf : f w with
  | ok a => exact ⟨Run.attempt_of_ok (Run.ask_of_ok hf),
      Run.attempt_of_ok (Run.ask_of_ok (h.symm.trans hf))⟩
  | error fault => exact ⟨Run.attempt_of_fault (Run.ask_of_error hf),
      Run.attempt_of_fault (Run.ask_of_error (h.symm.trans hf))⟩

/-- Requests that read the same are answered the same from monitors that look alike. -/
theorem RequestOf.ReadsAlike.answer {request request' : Request}
    (h : RequestOf.ReadsAlike number number' request request')
    (hlooks : World.LooksFrom number w number' w') (call call' : Nat → List Stmt → Run Unit) :
    ∃ outcome, (Live.answer call request).attempt w = (.ok outcome, w) ∧
      (Live.answer call' request').attempt w' = (.ok outcome, w') := by
  cases h with
  | recalls name =>
    refine ask_alike ?_
    obtain ⟨-, v, ⟨m, hm, hlooks⟩, m', hm', hlooks'⟩ := hlooks
    rw [monitor_eq_ok hm, monitor_eq_ok hm']
    show (m.variable_ name >>= _) = (m'.variable_ name >>= _)
    unfold Monitor.variable_
    rw [hlooks.vars, hlooks'.vars]
  | reaches root path =>
    refine ask_alike ?_
    rcases LooksFrom.reach hlooks root path with ⟨fault, hfault, hfault'⟩ |
      ⟨node, node', hnode, hnode', hview⟩
    · rw [hfault, hfault']
    · rw [hnode, hnode']
      have hsome := congrArg Option.isSome hview
      rw [Option.isSome_map, Option.isSome_map] at hsome
      show Except.ok (Json.bool node.isSome) = Except.ok (Json.bool node'.isSome)
      rw [hsome]
  | get root path name =>
    refine ask_alike ?_
    rcases LooksFrom.reach hlooks root path with ⟨fault, hfault, hfault'⟩ |
      ⟨node, node', hnode, hnode', hview⟩
    · rw [hfault, hfault']
      rfl
    · rw [hnode, hnode']
      cases node with
      | none =>
        rw [Option.map_none, Option.map_eq_none_iff] at hview
        rw [hview]
        rfl
      | some handle =>
        rw [Option.map_some, Option.map_eq_some_iff] at hview
        obtain ⟨handle', rfl, hview⟩ := hview
        exact (get_of_viewHandle hview hlooks.stores name).symm

end Requests

/-! ## Bodies -/

/-- The bodies are the same but for the number of their monitor and what they note, and only
read. -/
inductive Body.ReadsAlike (number number' : Nat) : Body → Body → Prop where
  | done : ReadsAlike number number' .done .done
  | fail (fault : Fault) : ReadsAlike number number' (.fail fault) (.fail fault)
  | crash : ReadsAlike number number' .crash .crash
  | note (who who' : String) (entry entry' : Note) {next next' : Body}
      (hnext : ReadsAlike number number' next next') :
      ReadsAlike number number' (.note who entry next) (.note who' entry' next')
  | ask {request request' : Request} {next next' : Except Fault Json → Body}
      (hrequest : RequestOf.ReadsAlike number number' request request')
      (hnext : ∀ outcome, ReadsAlike number number' (next outcome) (next' outcome)) :
      ReadsAlike number number' (.ask request next) (.ask request' next')

section Bodies

variable {number number' : Nat} {body body' : Body} {w w' : World}

theorem Body.ReadsAlike.asksOnly (h : Body.ReadsAlike number number' body body') :
    body.AsksOnly RequestOf.IsRead := by
  induction h with
  | done => exact .done
  | fail fault => exact .fail fault
  | crash => exact .crash
  | note who who' entry entry' hnext ih => exact .note who entry ih
  | ask hrequest hnext ih =>
    refine .ask ⟨number, ?_⟩ ih
    cases hrequest with
    | recalls name => exact .recalls name
    | reaches root path => exact .reaches root path
    | get root path name => exact .get root path name

/-- A body that only reads changes nothing but the journal. -/
theorem Body.AsksOnly.leaves (h : body.AsksOnly RequestOf.IsRead) (thread : String) (w : World) :
    ∃ journal, (body.perform thread w).2 = { w with journal } := by
  refine h.run_preserves (P := fun w' => ∃ journal, w' = { w with journal }) ?_
    (fun request hread => ?_) thread w ⟨w.journal, rfl⟩
  · rintro _ thread who entry ⟨journal, rfl⟩
    exact ⟨_, rfl⟩
  · obtain ⟨number, hread⟩ := hread
    cases hread with
    | recalls name => exact preserves_ask _
    | reaches root path => exact preserves_ask _
    | get root path name => exact preserves_ask _

/-- Bodies that read the same end the same in worlds that look alike from their monitors. -/
theorem Body.ReadsAlike.perform (h : Body.ReadsAlike number number' body body')
    (hlooks : World.LooksFrom number w number' w') (thread : String) :
    (body.perform thread w).1 = (body'.perform thread w').1 := by
  unfold Body.perform
  induction h generalizing w w' with
  | done => rfl
  | fail fault => rfl
  | crash => rfl
  | note who who' entry entry' hnext ih => exact ih (hlooks.noted _ _)
  | ask hrequest hnext ih =>
    obtain ⟨outcome, hanswer, hanswer'⟩ :=
      hrequest.answer hlooks (execute callDepth thread) (execute callDepth thread)
    rw [Body.run, Body.run, bind_of_ok hanswer, bind_of_ok hanswer']
    exact ih outcome hlooks

end Bodies

/-- Code blocks that only read, whatever the number of their monitor, have no effects. -/
theorem isInert_of_readsAlike {bindings : Bindings}
    (h : ∀ name i body, bindings.code name i = some body → ∀ number number',
      Body.ReadsAlike number number' (body number) (body number')) : bindings.IsInert where
  leaves hcode number w := (h _ _ _ hcode number number).asksOnly.leaves "" w
  alike hcode _ _ _ _ hlooks := (h _ _ _ hcode _ _).perform hlooks ""

end Watchtower.Live
