-- Code without effects. It leaves the world as it was, and sees no more of it than its own monitor
-- and the stores. So a constructor whose code has no effects just binds namespaces, and how it ends
-- does not depend on what else was linked, or on the number of its monitor.
import Watchtower.Proofs.Order.Views

namespace Watchtower.Live

/-! ## Code blocks -/

/-- The code blocks have no effects, but for notes in the journal. They are handed their monitor,
and end the same wherever it looks the same. -/
structure Bindings.IsInert (bindings : Bindings) : Prop where
  leaves : ∀ {name : String} {i : Nat} {body : Nat → Body}, bindings.code name i = some body →
    ∀ number w, ∃ journal, ((body number).perform "" w).2 = { w with journal }
  alike : ∀ {name : String} {i : Nat} {body : Nat → Body}, bindings.code name i = some body →
    ∀ {number number' : Nat} {w w' : World}, World.LooksFrom number w number' w' →
      ((body number).perform "" w).1 = ((body number').perform "" w').1

theorem World.staysIn_noted (w : World) (journal : List JournalEntry) :
    w.StaysIn { w with journal } :=
  ⟨.of_eq rfl rfl rfl, rfl, rfl, rfl, fun _ _ h => h⟩

/-- Notes are not seen. -/
theorem World.LooksFrom.noted {number number' : Nat} {w w' : World}
    (h : World.LooksFrom number w number' w') (journal journal' : List JournalEntry) :
    World.LooksFrom number { w with journal } number' { w' with journal := journal' } := by
  obtain ⟨hstores, v, hv, hv'⟩ := h
  exact ⟨hstores, v, hv.stays (w.staysIn_noted _), hv'.stays (w'.staysIn_noted _)⟩

section Code

variable {bindings : Bindings} {monitor name : String} {number number' : Nat}
  {Begins Begins' : World → Prop} {indexes : List Nat} {w w₁ w' w₁' : World}
  {outcome outcome' : Except Halt Unit}

/-- The journal is all that a body without effects changes. -/
theorem Bindings.IsInert.perform (h : bindings.IsInert) {i : Nat} {body : Nat → Body}
    (hcode : bindings.code name i = some body)
    (hrun : (body number).perform "" w = (outcome, w₁)) : ∃ journal, w₁ = { w with journal } := by
  obtain ⟨journal, hleft⟩ := h.leaves hcode number w
  rw [hrun] at hleft
  exact ⟨journal, hleft⟩

theorem CodeRuns.leaves (hinert : bindings.IsInert)
    (h : CodeRuns (bindings.code monitor) name number "" Begins indexes w outcome w₁) :
    ∃ journal, w₁ = { w with journal } := by
  induction h with
  | done w => exact ⟨w.journal, rfl⟩
  | unbound rest w hcode => exact ⟨w.journal, rfl⟩
  | halts rest hcode hbegins hrun => exact hinert.perform hcode hrun
  | next hcode hbegins hrun hrest ih =>
    obtain ⟨journal, rfl⟩ := hinert.perform hcode hrun
    exact ih

/-- Code blocks without effects end the same in worlds that look alike from their monitors. -/
theorem CodeRuns.alike (hinert : bindings.IsInert)
    (h : CodeRuns (bindings.code monitor) name number "" Begins indexes w outcome w₁)
    (h' : CodeRuns (bindings.code monitor) name number' "" Begins' indexes w' outcome' w₁')
    (hlooks : World.LooksFrom number w number' w') : outcome' = outcome := by
  -- On the blocks of the first run. The second runs the same ones, in worlds that look alike.
  induction h generalizing w' with
  | done w =>
    cases h'
    rfl
  | unbound rest w hnone =>
    cases h' with
    | unbound => rfl
    | halts rest hcode => cases hnone.symm.trans hcode
    | next hcode => cases hnone.symm.trans hcode
  | halts rest hcode hbegins hrun =>
    have hsame := hinert.alike hcode hlooks
    rw [hrun] at hsame
    cases h' with
    | unbound rest w hnone => cases hnone.symm.trans hcode
    | halts rest hcode' hbegins' hrun' =>
      cases hcode.symm.trans hcode'
      rw [hrun'] at hsame
      exact hsame.symm
    | next hcode' hbegins' hrun' hrest' =>
      cases hcode.symm.trans hcode'
      rw [hrun'] at hsame
      cases hsame
  | next hcode hbegins hrun hrest ih =>
    have hsame := hinert.alike hcode hlooks
    obtain ⟨journal, rfl⟩ := hinert.perform hcode hrun
    rw [hrun] at hsame
    cases h' with
    | unbound rest w hnone => cases hnone.symm.trans hcode
    | halts rest hcode' hbegins' hrun' =>
      cases hcode.symm.trans hcode'
      rw [hrun'] at hsame
      cases hsame
    | next hcode' hbegins' hrun' hrest' =>
      cases hcode.symm.trans hcode'
      obtain ⟨journal', rfl⟩ := hinert.perform hcode' hrun'
      exact ih hrest' (hlooks.noted journal journal')

end Code

/-! ## Constructors -/

/-- The namespaces that are bound of those that a monitor uses: all before the first that is not
there. -/
def boundIn (registry : String → Option HandleView) (usings : List String) (name : String) :
    Option HandleView :=
  if name ∈ usings.takeWhile (registry · |>.isSome) then registry name else none

/-- A monitor with namespaces bound looks as before, but for these. -/
theorem Monitor.LooksLike.bindAt {m : Monitor} {w : World} {number : Nat} {v : MonitorView}
    (h : m.LooksLike w number v) (hm : w.monitors[number]? = some m)
    {proxies : List (String × Handle)} {bound : String → Option HandleView}
    (hbound : ∀ name, (proxies.lookup name).map w.viewHandle = bound name) :
    (w.bindAt number m proxies).Shows number { v with proxies := bound } := by
  have hkeeps : w.KeepsSources (w.bindAt number m proxies) := .of_eq rfl rfl rfl
  exact ⟨_, World.monitor_bindAt hm proxies, h.name, h.vars, h.events.stays hkeeps, h.handlers,
    h.methods, h.bindings, h.registry, hbound, h.running, h.held⟩

section Constructors

variable {bindings : Bindings} {monitor name : String} {number number' : Nat}
  {registry registry' : List (String × Handle)} {usings : List String} {blocks : Nat}
  {w w₁ w' w₁' : World} {outcome outcome' : Except Halt Unit} {m m' : Monitor}
  {seen : String → Option HandleView}

theorem isThere_eq (hseen : ∀ name, (registry.lookup name).map w.viewHandle = seen name) :
    isThere registry = fun name => (seen name).isSome := by
  funext name
  rw [← hseen, Option.isSome_map]
  rfl

theorem boundIn_of_bound (hseen : ∀ name, (registry.lookup name).map w.viewHandle = seen name)
    {proxies : List (String × Handle)}
    (hbound : ∀ name, proxies.lookup name =
      if name ∈ usings.takeWhile (isThere registry) then registry.lookup name else none)
    (name : String) : (proxies.lookup name).map w.viewHandle = boundIn seen usings name := by
  unfold boundIn
  rw [hbound, isThere_eq hseen]
  split
  · exact hseen name
  · rfl

/-- A constructor whose code has no effects binds the namespaces before the first that is not
there, and changes nothing else but the journal. -/
theorem Constructs.leaves (hinert : bindings.IsInert)
    (h : Constructs (bindings.code monitor) name number "" registry usings blocks w outcome w₁)
    (hm : w.monitors[number]? = some m)
    (hseen : ∀ name, (registry.lookup name).map w.viewHandle = seen name) :
    ∃ proxies journal, w₁ = { w.bindAt number m proxies with journal } ∧
      ∀ name, (proxies.lookup name).map w.viewHandle = boundIn seen usings name := by
  cases h with
  | @lacks m' proxies space _ hm' hspace hbound =>
    cases hm.symm.trans hm'
    exact ⟨proxies, w.journal, rfl, boundIn_of_bound hseen hbound⟩
  | @runs m' proxies _ _ _ hm' hthere hbound hruns =>
    cases hm.symm.trans hm'
    obtain ⟨journal, hleft⟩ := hruns.leaves hinert
    have hall : usings.takeWhile (isThere registry) = usings :=
      List.takeWhile_eq_self_iff.mpr hthere
    rw [← hall] at hbound
    exact ⟨proxies, journal, hleft, boundIn_of_bound hseen hbound⟩

/-- Constructors of monitors that look alike end the same, where the code has no effects. -/
theorem Constructs.alike (hinert : bindings.IsInert)
    (h : Constructs (bindings.code monitor) name number "" registry usings blocks w outcome w₁)
    (h' : Constructs (bindings.code monitor) name number' "" registry' usings blocks w' outcome'
      w₁')
    (hm : w.monitors[number]? = some m) (hm' : w'.monitors[number']? = some m') {v : MonitorView}
    (hlooks : m.LooksLike w number v) (hlooks' : m'.LooksLike w' number' v)
    (hstores : w'.stores = w.stores)
    (hseen : ∀ name, (registry.lookup name).map w.viewHandle = seen name)
    (hseen' : ∀ name, (registry'.lookup name).map w'.viewHandle = seen name) :
    outcome' = outcome := by
  have hsame : isThere registry' = isThere registry :=
    (isThere_eq hseen').trans (isThere_eq hseen).symm
  cases h with
  | lacks hm₁ hspace hbound =>
    cases h' with
    | lacks hm₁' hspace' hbound' =>
      rw [hsame, hspace] at hspace'
      cases hspace'
      rfl
    | runs hm₁' hthere' hbound' hruns' =>
      rw [hsame] at hthere'
      have hlacks := List.find?_some hspace
      simp [hthere' _ (List.mem_of_find?_eq_some hspace)] at hlacks
  | @runs _ proxies _ _ _ hm₁ hthere hbound hruns =>
    cases hm.symm.trans hm₁
    have hall : usings.takeWhile (isThere registry) = usings :=
      List.takeWhile_eq_self_iff.mpr hthere
    cases h' with
    | lacks hm₁' hspace' hbound' =>
      rw [hsame] at hspace'
      have hlacks := List.find?_some hspace'
      simp [hthere _ (List.mem_of_find?_eq_some hspace')] at hlacks
    | @runs _ proxies' _ _ _ hm₁' hthere' hbound' hruns' =>
      cases hm'.symm.trans hm₁'
      rw [← hall] at hbound
      rw [← hall, ← hsame] at hbound'
      have hbinds := hlooks.bindAt hm (boundIn_of_bound hseen hbound)
      have hbinds' := hlooks'.bindAt hm' (boundIn_of_bound hseen' hbound')
      exact hruns.alike hinert hruns' ⟨hstores, _, hbinds, hbinds'⟩

end Constructors

end Watchtower.Live
