-- Monitors in any order. What comes of a monitor is the same wherever it is linked, as long as the
-- namespaces and the stores are the same: what it looks like, what is recorded, and whether its
-- code crashes. So what comes of some monitors depends only on which they are.
import Watchtower.Proofs.Linking.Construction
import Watchtower.Proofs.Order.Code
import Watchtower.Proofs.Order.Members

namespace Watchtower.Linking

open Live

/-! ## Preparations -/

/-- The world is set for linking monitors: these are its stores and its namespaces, it provides for
what was listed, and the queues that will be listed are free. -/
structure IsSetFor (stores : List Store) (spaces : List (String × HandleView))
    (bs : List Blueprint) (listed : List Binding) (w : World) : Prop where
  orderly : w.IsOrderly
  provides : w.Provides True listed
  queues : ((listed ++ monitorBindings bs).map (·.queue)).Nodup
  stores : w.stores = stores
  spaces : w.viewSpaces = spaces

/-- Monitors were added: they look like this, and what failed was recorded. -/
structure AddsMonitors (bs : List Blueprint) (added : List (MonitorView × List Failure))
    (listed : List Binding) (w w' : World) : Prop where
  stays : w.StaysIn w'
  orderly : w'.IsOrderly
  provides : w'.Provides True (listed ++ monitorBindings bs)
  failures : w'.failures = w.failures ++ added.flatMap (·.2)
  looks : ∀ views, w.ShowsAll views → w'.ShowsAll (views ++ added.map (·.1))

/-- How a monitor is linked in a world: it is added, and what failed is recorded, or else its code
crashes. -/
def Links (bindings : Bindings) (b : Blueprint) (listed : List Binding) (w : World) :
    Option (MonitorView × List Failure) → Prop
  | none => ∃ w', linkMonitor bindings b w = (.error .crashed, w')
  | some added => ∃ w', linkMonitor bindings b w = (.ok w.monitors.length, w') ∧
      AddsMonitors [b] [added] listed w w'

/-- What comes of a monitor in all worlds with these stores and namespaces that are set for it. -/
def ComesTo (bindings : Bindings) (stores : List Store) (spaces : List (String × HandleView))
    (b : Blueprint) (linkage : Option (MonitorView × List Failure)) : Prop :=
  ∀ {listed : List Binding} {w : World}, IsSetFor stores spaces [b] listed w →
    Links bindings b listed w linkage

theorem monitorBindings_append (bs bs' : List Blueprint) :
    monitorBindings (bs ++ bs') = monitorBindings bs ++ monitorBindings bs' := by
  unfold monitorBindings monitorEntries
  rw [List.filterMap_append, List.flatMap_append]

section Adding

variable {stores : List Store} {spaces : List (String × HandleView)} {bs bs' : List Blueprint}
  {added added' : List (MonitorView × List Failure)} {listed : List Binding} {w w₁ w' : World}

theorem AddsMonitors.append (h : AddsMonitors bs added listed w w₁)
    (h' : AddsMonitors bs' added' (listed ++ monitorBindings bs) w₁ w') :
    AddsMonitors (bs ++ bs') (added ++ added') listed w w' := by
  refine ⟨h.stays.trans h'.stays, h'.orderly, ?_, ?_, fun views hviews => ?_⟩
  · rw [monitorBindings_append, ← List.append_assoc]
    exact h'.provides
  · rw [h'.failures, h.failures, List.flatMap_append, List.append_assoc]
  · rw [List.map_append, ← List.append_assoc]
    exact h'.looks _ (h.looks views hviews)

theorem monitorBindings_cons (b : Blueprint) (bs : List Blueprint) :
    monitorBindings (b :: bs) = monitorBindings [b] ++ monitorBindings bs :=
  monitorBindings_append [b] bs

/-- Once a monitor was added the world is set for those that are to come. -/
theorem IsSetFor.tail {b : Blueprint} (h : IsSetFor stores spaces (b :: bs) listed w)
    (hadds : AddsMonitors [b] added listed w w') :
    IsSetFor stores spaces bs (listed ++ monitorBindings [b]) w' := by
  refine ⟨hadds.orderly, hadds.provides, ?_, hadds.stays.stores.trans h.stores, ?_⟩
  · rw [List.append_assoc, ← monitorBindings_cons]
    exact h.queues
  · rw [← h.spaces]
    exact World.viewSpaces_congr hadds.stays.spaces hadds.stays.connections

theorem IsSetFor.head {b : Blueprint} (h : IsSetFor stores spaces (b :: bs) listed w) :
    IsSetFor stores spaces [b] listed w := by
  refine ⟨h.orderly, h.provides, h.queues.sublist ?_, h.stores, h.spaces⟩
  rw [monitorBindings_cons b bs, ← List.append_assoc]
  exact (List.sublist_append_left _ _).map _

end Adding

/-! ## A monitor -/

section Monitors

variable {package : Option String} {index : SpaceIndex} {decl : Source.Monitor} {b : Blueprint}
  {bindings : Bindings} {stores : List Store} {spaces : List (String × HandleView)}

/-- What is seen of a monitor before its constructor runs. -/
def begunView (b : Blueprint) (bindings : Bindings) (spaces : List (String × HandleView))
    (members : MembersView) : MonitorView :=
  { members with
    name := b.qualifiedName
    methods := b.methods
    bindings
    registry := (spaces.lookup ·)
    proxies := fun _ => none }

/-- What is seen of a monitor once its constructor has run. -/
def linkedView (b : Blueprint) (bindings : Bindings) (spaces : List (String × HandleView))
    (members : MembersView) (usings : List String) : MonitorView :=
  { begunView b bindings spaces members with proxies := boundIn (spaces.lookup ·) usings }

/-- A monitor that was started in a world looks like this, and its constructor runs. -/
structure StartsAs (package : Option String) (decl : Source.Monitor) (bindings : Bindings)
    (spaces : List (String × HandleView)) (v : MonitorView) (w : World)
    (outcome : Except Halt Unit) (w₁ w₂ : World) : Prop where
  looks : ∃ m, w₁.monitors[w.monitors.length]? = some m ∧ m.LooksLike w₁ w.monitors.length v
  stores : w₁.stores = w.stores
  seen : ∀ name, (w.spaces.lookup name).map w₁.viewHandle = spaces.lookup name
  constructs : Constructs (bindings.code (Source.qualify package decl.name))
    (Source.qualify package decl.name) w.monitors.length "" w.spaces decl.usings
    (codeCount decl.body) w₁ outcome w₂

/-- Constructors of a monitor end the same in all worlds with the same namespaces and stores. -/
theorem StartsAs.alike {v : MonitorView} {w w₁ w₂ w' w₁' w₂' : World}
    {outcome outcome' : Except Halt Unit} (hinert : bindings.IsInert)
    (h : StartsAs package decl bindings spaces v w outcome w₁ w₂)
    (h' : StartsAs package decl bindings spaces v w' outcome' w₁' w₂')
    (hstores : w'.stores = w.stores) : outcome' = outcome := by
  obtain ⟨m, hm, hlooks⟩ := h.looks
  obtain ⟨m', hm', hlooks'⟩ := h'.looks
  refine h.constructs.alike hinert h'.constructs hm hm' hlooks hlooks' ?_ h.seen h'.seen
  rw [h'.stores, hstores, h.stores]

/-- A monitor looks as its members do before its constructor runs. -/
theorem newMonitor_looksLike {members : MembersView} {made : MonitorMembers} {number : Nat}
    {w w₁ : World} {registry : List (String × Handle)}
    (hlooks : made.LookLike ⟨number, b, bindings⟩ w members) (hstays : w.StaysIn w₁)
    (hseen : ∀ name, (registry.lookup name).map w₁.viewHandle = spaces.lookup name) :
    (newMonitor b bindings made registry).LooksLike w₁ number
      (begunView b bindings spaces members) :=
  ⟨rfl, hlooks.vars, hlooks.events.stays hstays.toKeepsSources, hlooks.handlers, rfl, rfl, hseen,
    fun _ => rfl, rfl, rfl⟩

/-- An accepted monitor without other values than literals is started in every world that is set
for it. Its constructor binds the namespaces that are there, and records nothing by itself. -/
theorem linkMonitor_starts (haccepted : Report.outcome true package index (.monitor decl) = .ok b)
    (htypes : (decl.body.filterMap (typeName? (monitorScope package index decl))).Nodup)
    (hliterals : ∀ v, .variable v ∈ decl.body → v.initializer.IsLiteral)
    (hinert : bindings.IsInert) (spaces : List (String × HandleView)) :
    ∃ members : MembersView, ∀ {stores : List Store} {listed : List Binding} {w : World},
      IsSetFor stores spaces [b] listed w → ∃ outcome w₁ w₂,
        StartsAs package decl bindings spaces (begunView b bindings spaces members) w outcome w₁
          w₂ ∧
        linkMonitor bindings b w =
          ending (Naming.pascal decl.name ++ "::new") w.monitors.length outcome w₂ ∧
        AddsMonitors [b] [(linkedView b bindings spaces members decl.usings, [])] listed w w₂ := by
  obtain ⟨hcheck, hlower⟩ := outcome_eq_ok.mp haccepted
  have h := isLoweredFrom_of_ofMonitor hlower
  obtain ⟨members, hshow⟩ := addFields_show h htypes bindings (fun _ hitem => hitem)
    hliterals {}
  refine ⟨members, fun {stores listed w} hset => ?_⟩
  have hlisted : monitorBindings [b] = decl.body.filterMap
      (bindingOf? (monitorScope package index decl)) := by
    rw [monitorBindings_cons_of_monitor h.kind, (lists_of_ofMonitor hlower htypes).bindings]
    exact List.append_nil _
  have hqueues := hset.queues
  rw [hlisted] at hqueues
  have hnothing : MonitorMembers.LookLike {} ⟨w.monitors.length, b, bindings⟩ w {} :=
    ⟨rfl, .nil, rfl⟩
  obtain ⟨made, w₀, hfold, hmakes⟩ := hshow hset.provides hqueues hnothing
  have hfields : b.fields.foldlM (addField ⟨w.monitors.length, b, bindings⟩) {} w =
      (.ok made, w₀) := (foldlM_fields h _ {} w).trans hfold
  have hstarts := starts_of_fields hlower hcheck hset.orderly hfields
  have hprovides := addFields_provides h (areOwnNamesakes_of_nodup htypes) (fun _ hitem => hitem)
    hfold hset.provides hqueues
  obtain ⟨outcome, w₂, hconstructs, hrun⟩ := hstarts.constructs hlower
  generalize hnew : newMonitor b bindings made w₀.spaces = new at hstarts hconstructs hrun
  generalize hw₁ : { w₀ with monitors := w₀.monitors ++ [new] } = w₁ at hstarts hconstructs hrun
  have hadded : w₀.StaysIn w₁ := hw₁ ▸ w₀.staysIn_addMonitor new
  have hstays := hmakes.stays.trans hadded
  have hseen : ∀ name, (w.spaces.lookup name).map w₁.viewHandle = spaces.lookup name := by
    intro name
    rw [World.viewHandle_congr hstays.connections, ← lookup_map_snd]
    exact congrArg (List.lookup name) hset.spaces
  have hlooks := newMonitor_looksLike hmakes.looks hadded (hmakes.stays.spaces ▸ hseen)
  rw [hnew] at hlooks
  have hm : w₁.monitors[w.monitors.length]? = some new := hstarts.monitor
  refine ⟨outcome, w₁, w₂, ⟨⟨new, hm, hlooks⟩, hstays.stores, hseen, hconstructs⟩, ?_, ?_⟩
  · apply linkMonitor_of_fields h.kind hfields
    rw [hnew, hw₁]
    exact hrun
  -- The constructor leaves all but the namespaces of its monitor and the journal.
  obtain ⟨proxies, journal, rfl, hbound⟩ := hconstructs.leaves hinert hm hseen
  have hnoted := (w₁.bindAt w.monitors.length new proxies).staysIn_noted journal
  have hleft := (hstays.bindAt (Nat.le_refl _) new proxies).trans hnoted
  have hlength : (w₁.monitors.set w.monitors.length { new with proxies }).length =
      w.monitors.length + 1 := by
    rw [List.length_set, hstarts.monitors, List.length_append, List.length_singleton]
  refine ⟨hleft, hstarts.orderly.bindAt hm proxies, ?_, ?_, fun views hviews => ?_⟩
  · rw [hlisted]
    exact hprovides.congr (by rw [← hw₁]; rfl) (by rw [← hw₁]; rfl)
  · show w₁.failures = w.failures ++ []
    rw [← hw₁, List.append_nil]
    exact hmakes.failures
  · exact hviews.snoc hleft hlength ((hlooks.bindAt hm hbound).stays hnoted)

/-- A fault is recorded, and nothing else of the added monitors changes. -/
theorem AddsMonitors.record {v : MonitorView} {listed : List Binding} {w w' : World}
    (h : AddsMonitors [b] [(v, [])] listed w w') (site : String) (fault : Fault) :
    AddsMonitors [b] [(v, [⟨site, fault.message⟩])] listed w (w'.record site fault) := by
  have hstays : w'.StaysIn (w'.record site fault) :=
    ⟨.of_eq rfl rfl rfl, rfl, rfl, rfl, fun _ _ h => h⟩
  refine ⟨h.stays.trans hstays, h.orderly, h.provides.congr rfl rfl, ?_, fun views hviews => ?_⟩
  · show w'.failures ++ _ = _
    rw [h.failures]
    simp
  · obtain ⟨hlength, hshows⟩ := h.looks views hviews
    exact ⟨hlength, fun number view hview => (hshows number view hview).stays hstays⟩

/-- What comes of an accepted monitor is the same in all worlds that are set for it. -/
theorem exists_linkage (haccepted : Report.outcome true package index (.monitor decl) = .ok b)
    (htypes : (decl.body.filterMap (typeName? (monitorScope package index decl))).Nodup)
    (hliterals : ∀ v, .variable v ∈ decl.body → v.initializer.IsLiteral)
    (hinert : bindings.IsInert) (stores : List Store) (spaces : List (String × HandleView)) :
    ∃ linkage, ComesTo bindings stores spaces b linkage := by
  obtain ⟨members, hlinks⟩ := linkMonitor_starts haccepted htypes hliterals hinert spaces
  -- One world tells how the constructor ends in all of them, if there is one at all.
  by_cases hsome : ∃ listed w, IsSetFor stores spaces [b] listed w
  case neg => exact ⟨none, fun {listed w} hset => absurd ⟨listed, w, hset⟩ hsome⟩
  obtain ⟨listed₀, w₀, hset₀⟩ := hsome
  obtain ⟨outcome, w₁, w₂, hstarts, -, -⟩ := hlinks hset₀
  have hends : ∀ {listed : List Binding} {w : World}, IsSetFor stores spaces [b] listed w →
      ∃ w', linkMonitor bindings b w =
          ending (Naming.pascal decl.name ++ "::new") w.monitors.length outcome w' ∧
        AddsMonitors [b] [(linkedView b bindings spaces members decl.usings, [])] listed w w' := by
    intro listed w hset
    obtain ⟨outcome', w₁', w₂', hstarts', hlink, hadds⟩ := hlinks hset
    obtain rfl := hstarts.alike hinert hstarts' (hset.stores.trans hset₀.stores.symm)
    exact ⟨w₂', hlink, hadds⟩
  cases outcome with
  | ok value =>
    refine ⟨some (linkedView b bindings spaces members decl.usings, []), fun hset => ?_⟩
    obtain ⟨w', hlink, hadds⟩ := hends hset
    exact ⟨w', hlink, hadds⟩
  | error halt =>
    cases halt with
    | fault fault =>
      refine ⟨some (linkedView b bindings spaces members decl.usings,
        [⟨Naming.pascal decl.name ++ "::new", fault.message⟩]), fun hset => ?_⟩
      obtain ⟨w', hlink, hadds⟩ := hends hset
      exact ⟨_, hlink, hadds.record _ fault⟩
    | crash =>
      refine ⟨none, fun hset => ?_⟩
      obtain ⟨w', hlink, -⟩ := hends hset
      exact ⟨_, hlink⟩

end Monitors

/-! ## Several monitors -/

section Runs

variable {bindings : Bindings} {stores : List Store} {spaces : List (String × HandleView)}
  {linkage : Blueprint → Option (MonitorView × List Failure)} {bs : List Blueprint}
  {listed : List Binding} {w w' : World}

theorem AddsMonitors.refl (h : IsSetFor stores spaces bs listed w) :
    AddsMonitors [] [] listed w w :=
  ⟨.refl w, h.orderly, by simpa [monitorBindings, monitorEntries] using h.provides, by simp,
    by simp⟩

/-- Blueprints of other kinds are passed over. -/
theorem IsSetFor.skip {b : Blueprint} (hkind : b.kind ≠ .monitor)
    (h : IsSetFor stores spaces (b :: bs) listed w) : IsSetFor stores spaces bs listed w := by
  refine ⟨h.orderly, h.provides, ?_, h.stores, h.spaces⟩
  rw [← monitorBindings_cons_of_other hkind]
  exact h.queues

/-- Where each monitor is linked to something, all of them are. -/
theorem linkMonitors_succeeds
    (hlinkage : ∀ b ∈ monitorsOf bs, ComesTo bindings stores spaces b (linkage b))
    (hset : IsSetFor stores spaces bs listed w)
    (hsome : ∀ b ∈ monitorsOf bs, (linkage b).isSome) :
    ∃ numbers w', linkMonitors bindings bs w = (.ok numbers, w') := by
  induction bs generalizing listed w with
  | nil => exact ⟨_, _, rfl⟩
  | cons b rest ih =>
    by_cases hkind : b.kind = .monitor
    · rw [monitorsOf_cons_of_monitor hkind] at hlinkage hsome
      obtain ⟨added, hadded⟩ := Option.isSome_iff_exists.mp (hsome b List.mem_cons_self)
      have hlinks := hlinkage b List.mem_cons_self hset.head
      rw [hadded] at hlinks
      obtain ⟨w₁, hlink, hadds⟩ := hlinks
      obtain ⟨numbers, w', hrest⟩ := ih (fun b' hb' => hlinkage b' (List.mem_cons_of_mem _ hb'))
        (hset.tail hadds) (fun b' hb' => hsome b' (List.mem_cons_of_mem _ hb'))
      exact ⟨_, _, linkMonitors_cons_of_ok hkind hlink hrest⟩
    · rw [monitorsOf_cons_of_other hkind] at hlinkage hsome
      rw [linkMonitors_cons_of_other hkind]
      exact ih hlinkage (hset.skip hkind) hsome

/-- Monitors that are linked were each linked to something, and this is what was added. -/
theorem linkMonitors_adds
    (hlinkage : ∀ b ∈ monitorsOf bs, ComesTo bindings stores spaces b (linkage b))
    (hset : IsSetFor stores spaces bs listed w) {numbers : List Nat}
    (hlink : linkMonitors bindings bs w = (.ok numbers, w')) :
    (∀ b ∈ monitorsOf bs, (linkage b).isSome) ∧
      AddsMonitors bs ((monitorsOf bs).filterMap linkage) listed w w' := by
  induction bs generalizing listed w numbers with
  | nil =>
    cases hlink
    exact ⟨by simp [monitorsOf], .refl hset⟩
  | cons b rest ih =>
    by_cases hkind : b.kind = .monitor
    · rw [monitorsOf_cons_of_monitor hkind] at hlinkage ⊢
      obtain ⟨number, others, w₁, hfirst, hothers, rfl⟩ := linkMonitors_cons_eq_ok hkind hlink
      have hlinks := hlinkage b List.mem_cons_self hset.head
      cases hadded : linkage b with
      | none =>
        rw [hadded] at hlinks
        obtain ⟨w₁', hcrash⟩ := hlinks
        cases hfirst.symm.trans hcrash
      | some added =>
        rw [hadded] at hlinks
        obtain ⟨w₁', hlinked, hadds⟩ := hlinks
        cases hfirst.symm.trans hlinked
        obtain ⟨hsome, hrest⟩ := ih (fun b' hb' => hlinkage b' (List.mem_cons_of_mem _ hb'))
          (hset.tail hadds) hothers
        rw [List.filterMap_cons_some hadded]
        refine ⟨?_, hadds.append hrest⟩
        intro b' hb'
        rcases List.mem_cons.mp hb' with rfl | hb'
        · rw [hadded]
          rfl
        · exact hsome b' hb'
    · rw [monitorsOf_cons_of_other hkind] at hlinkage ⊢
      rw [linkMonitors_cons_of_other hkind] at hlink
      obtain ⟨hsome, hrest⟩ := ih hlinkage (hset.skip hkind) hlink
      refine ⟨hsome, hrest.stays, hrest.orderly, ?_, hrest.failures, hrest.looks⟩
      rw [monitorBindings_cons_of_other hkind]
      exact hrest.provides

end Runs

end Watchtower.Linking
