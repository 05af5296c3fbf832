-- From a write to a handler. The declarations of a package are lowered and linked, and a handler
-- is subscribed to a change event. What the namespace publishes and what the event consumes were
-- named on two sides, and agree: the handler hears of just the writes of its variable that pass
-- the specifier while its monitor runs.
import Watchtower.Proofs.Linking.System
import Watchtower.Proofs.Linking.Watching

namespace Watchtower.Linking

open Live
open Source (Declaration SourceUnit Expr Specifier)
open Text (Undotted)

/-! ## Names and chains -/

/-- A name that may be declared: it is not empty, and has neither dots nor blanks. -/
structure IsName (s : String) : Prop where
  nonempty : s.isEmpty = false
  undotted : Undotted s
  unblank : ∀ c ∈ s.toList, Text.isBlank c = false

instance (s : String) : Decidable (IsName s) :=
  decidable_of_iff (s.isEmpty = false ∧ '.' ∉ s.toList ∧
      s.toList.all (fun c => !Text.isBlank c) = true)
    ⟨fun h => ⟨h.1, h.2.1, Text.unblank_iff.mpr h.2.2⟩,
      fun h => ⟨h.nonempty, h.undotted, Text.unblank_iff.mp h.unblank⟩⟩

/-- The expression is the chain of some features, and no class is declared for the first. -/
inductive IsChain : Expr → List String → Prop where
  | root (feature : String) : IsChain (.root feature none) [feature]
  | member {receiver : Expr} {names : List String} (feature : String)
      (declaredClass : Option String) (h : IsChain receiver names) :
      IsChain (.member receiver feature declaredClass) (names ++ [feature])

theorem IsChain.rootClass? {emitter : Expr} {names : List String} (h : IsChain emitter names) :
    Route.rootClass? emitter = none := by
  induction h with
  | root feature => rfl
  | member feature declaredClass h ih => exact ih

theorem IsChain.segments {emitter : Expr} {names : List String} (h : IsChain emitter names)
    (hnames : ∀ s ∈ names, IsName s) : Route.segments emitter = names := by
  induction h with
  | root feature => rw [Route.segments, Text.trim_of_unblank (hnames feature (by simp)).unblank]
  | member feature declaredClass h ih =>
    rw [Route.segments, ih fun s hs => hnames s (List.mem_append_left _ hs),
      Text.trim_of_unblank (hnames feature (by simp)).unblank]

/-- The route of a chain of names begins with the canonical name of its root. -/
theorem ofEmitter?_of_isChain {emitter : Expr} {root : String} {path : List String}
    (h : IsChain emitter (root :: path)) (hnames : ∀ s ∈ root :: path, IsName s)
    (monitor event : String) {index : SpaceIndex} {canonical : String}
    (hindex : index.canonical? root = some canonical) :
    Route.ofEmitter? monitor event emitter index = some {
      exchange := canonical
      routingKey := root
      queue := monitor ++ "." ++ event ++ "." ++ Text.join "." (root :: path)
      variablePath := Text.join "." path } := by
  have hall : (root :: path).filter (!·.isEmpty) = root :: path := by
    rw [List.filter_eq_self]
    intro s hs
    simp [(hnames s hs).nonempty]
  rw [Route.ofEmitter?_eq, h.segments hnames, hall, h.rootClass?]
  simp [hindex]

/-! ## Packages -/

/-- The declarations of units. -/
def declarationsOf (units : List SourceUnit) : List Declaration :=
  units.flatMap (·.declarations)

/-- The names of the types to which the members of a monitor are lowered. -/
def typeNames (package : Option String) (index : SpaceIndex) : Declaration → List String
  | .monitor decl => decl.body.filterMap (typeName? (monitorScope package index decl))
  | .space _ => []

/-- Units of one package in which nothing is confused: all names can be told apart, and every
variable begins with a literal. -/
structure IsOrderly (package : Option String) (units : List SourceUnit) : Prop where
  packaged : ∀ unit ∈ units, unit.package = package
  names : ∀ decl ∈ declarationsOf units, ∀ name ∈ decl.names, IsName name
  monitors : ((declarationsOf units).filterMap monitorName?).Nodup
  spaces : ((declarationsOf units).filterMap spaceName?).Nodup
  literals : ∀ decl ∈ declarationsOf units, ∀ v ∈ decl.variables, v.initializer.IsLiteral
  types : ∀ decl ∈ declarationsOf units,
    (typeNames package (SpaceIndex.ofUnits units) decl).Nodup

instance (package : Option String) (units : List SourceUnit) : Decidable (IsOrderly package units) :=
  decidable_of_iff ((∀ unit ∈ units, unit.package = package) ∧
    (∀ decl ∈ declarationsOf units, ∀ name ∈ decl.names, IsName name) ∧
    ((declarationsOf units).filterMap monitorName?).Nodup ∧
    ((declarationsOf units).filterMap spaceName?).Nodup ∧
    (∀ decl ∈ declarationsOf units, ∀ v ∈ decl.variables, v.initializer.IsLiteral) ∧
    ∀ decl ∈ declarationsOf units, (typeNames package (SpaceIndex.ofUnits units) decl).Nodup)
    ⟨fun ⟨packaged, names, monitors, spaces, literals, types⟩ =>
      ⟨packaged, names, monitors, spaces, literals, types⟩,
      fun h => ⟨h.packaged, h.names, h.monitors, h.spaces, h.literals, h.types⟩⟩

section Packages

variable {package : Option String} {units : List SourceUnit}

theorem IsOrderly.isTidy (h : IsOrderly package units) {decl : Source.Monitor}
    (hdecl : .monitor decl ∈ declarationsOf units) :
    IsTidy package (SpaceIndex.ofUnits units) decl := by
  have hnames : ∀ name ∈ decl.name :: decl.body.filterMap Source.MonitorItem.name?, IsName name :=
    h.names (.monitor decl) hdecl
  refine ⟨(hnames _ List.mem_cons_self).undotted, ?_, h.types (.monitor decl) hdecl, ?_⟩
  · intro name hname
    exact (hnames name (List.mem_cons_of_mem _ hname)).undotted
  · intro v hv
    exact h.literals (.monitor decl) hdecl v (List.mem_filterMap.mpr ⟨_, hv, rfl⟩)

theorem IsOrderly.isLiteral (h : IsOrderly package units) {decl : Source.Namespace}
    (hdecl : .space decl ∈ declarationsOf units) {v : Source.Variable}
    (hv : .variable v ∈ Source.SpaceItem.allWithin decl.body) : v.initializer.IsLiteral :=
  h.literals (.space decl) hdecl v (List.mem_filterMap.mpr ⟨_, hv, rfl⟩)

/-- The names that lead to a declared variable are names. -/
theorem IsOrderly.isName (h : IsOrderly package units) {decl : Source.Namespace}
    (hdecl : .space decl ∈ declarationsOf units) {path : List String} {name : String}
    (hdeclares : Source.Declares decl.body path name) :
    ∀ s ∈ decl.name :: (path ++ [name]), IsName s := by
  have hnames : ∀ s ∈ decl.name :: (Source.SpaceItem.allWithin decl.body).map Source.SpaceItem.name,
      IsName s := h.names (.space decl) hdecl
  intro s hs
  rcases List.mem_cons.mp hs with rfl | hs
  · exact hnames _ List.mem_cons_self
  · obtain ⟨item, hitem, rfl⟩ := hdeclares.names s hs
    exact hnames _ (List.mem_cons_of_mem _ (List.mem_map_of_mem hitem))

theorem roots_names (units : List SourceUnit) :
    (units.flatMap SpaceIndex.rootsOf).map (·.1) = (declarationsOf units).filterMap spaceName? := by
  unfold declarationsOf
  rw [List.map_flatMap, List.filterMap_flatMap]
  congr 1
  funext unit
  unfold SpaceIndex.rootsOf
  rw [List.map_filterMap]
  congr 1
  funext decl
  cases decl <;> rfl

/-- The index knows a declared root by the name under which its changes are published. -/
theorem IsOrderly.canonical? (h : IsOrderly package units) {decl : Source.Namespace}
    (hdecl : .space decl ∈ declarationsOf units) :
    (SpaceIndex.ofUnits units).canonical? decl.name =
      some (Source.qualify package (Naming.pascal decl.name)) := by
  obtain ⟨unit, hunit, hmem⟩ := List.mem_flatMap.mp hdecl
  have hnames := h.spaces
  rw [← roots_names] at hnames
  rw [canonical?_ofUnits hnames hunit hmem, SourceUnit.qualify, h.packaged unit hunit]

end Packages

/-! ## Subscribing -/

/-- Bindings of a handler alone, which notes its argument under a name. -/
def notingBindings (monitor handler who : String) : Bindings where
  handler := fun monitor' handler' =>
    if monitor' = monitor ∧ handler' = handler then
      some fun _ payload => .note who (.payload payload) .done
    else none

/-- A source belongs to one monitor only. -/
theorem owner_unique {monitors : List Monitor} (h : monitors.Pairwise Monitor.IsBefore)
    {k k' : Nat} {m m' : Monitor} (hm : monitors[k]? = some m) (hm' : monitors[k']? = some m')
    {event event' : String × Nat} (hevent : event ∈ m.events) (hevent' : event' ∈ m'.events)
    (heq : event.2 = event'.2) : k = k' := by
  obtain ⟨hlt, rfl⟩ := List.getElem?_eq_some_iff.mp hm
  obtain ⟨hlt', rfl⟩ := List.getElem?_eq_some_iff.mp hm'
  rw [List.pairwise_iff_getElem] at h
  rcases Nat.lt_trichotomy k k' with hless | hsame | hmore
  · have hbefore := h k k' hlt hlt' hless event hevent event' hevent'
    omega
  · exact hsame
  · have hbefore := h k' k hlt' hlt hmore event' hevent' event hevent
    omega

/-- A handler that is subscribed to a tuned source watches its variable. -/
theorem subscribe_isWatching {package : Option String} {w : World} (hsystem : IsSystem package w)
    {watch : Watch} (hsound : watch.IsSound) {m : Monitor}
    (hm : w.monitors[watch.monitor]? = some m) {event handler : String}
    (hevent : m.events.lookup event = some watch.source)
    (hhandler : m.handlers.lookup handler = some (.observer watch.observer))
    {filter : Option ChangeFilter}
    (htuned : w.IsTuned watch.source (watch.config package) watch.place.below filter)
    (hpasses : ∀ previous current, filter.all (·.passes previous current) =
      passes watch.specifier previous current) :
    ∃ w', w.subscribe watch.monitor event handler = .ok w' ∧
      IsWatching package watch true w' ∧ w'.journal = [] := by
  obtain ⟨s, hs, htrigger⟩ := Option.map_eq_some_iff.mp htuned.trigger
  have hfresh := hsystem.sources s (List.mem_of_getElem? hs)
  refine ⟨w.modifySource watch.source (·.observe watch.observer), ?_, ?_, hsystem.journal⟩
  · apply subscribe_observer hm hevent hhandler
    simp [hs, Source.isPeriodic, htrigger]
  · have htrigger' : (w.modifySource watch.source (·.observe watch.observer)).sources[
        watch.source]?.map (·.trigger) = some (.change watch.place.root watch.place.below filter) := by
      simp [World.modifySource, hs, Source.observe, htrigger, Watch.config]
    refine isWatching_of_isListening hsound hsystem.spaces htrigger' hpasses ?_
    refine isListening_observe hsound.noting hsound.owner hsystem.wired htuned.consumer ?_ ?_ ?_ ?_ ?_
    · simp [Watch.listening, hs, hfresh.2]
    · exact fun other hother => (hsystem.sources other hother).1
    · exact fun other hother =>
        ⟨(hsystem.monitors other hother).steered, (hsystem.monitors other hother).held⟩
    · exact ⟨m, hm, (hsystem.monitors m (List.mem_of_getElem? hm)).running,
        List.mem_map.mpr ⟨_, mem_of_lookup hevent, rfl⟩⟩
    · intro k other hother hin
      obtain ⟨entry, hentry, heq⟩ := List.mem_map.mp hin
      exact owner_unique hsystem.apart hother hm hentry (mem_of_lookup hevent) heq

theorem reaction_notingBindings (monitor handler who : String) (number : Nat) :
    (notingBindings monitor handler who).reaction monitor number handler =
      fun payload => .note who (.payload payload) .done := by
  funext payload
  simp [Bindings.reaction, notingBindings]

/-! ## The law -/

/-- What a handler notes of a change at a place. -/
def noteOf (queue who : String) (place : Place) (change : Json × Json) : JournalEntry :=
  ⟨queue, who, .payload (.change place.below change.1 change.2)⟩

/-- The accepted declarations of an orderly package are linked, and a handler that notes its
argument is subscribed to a change event of its monitor. Whatever is written, paused and resumed
afterwards, with a flush after each step, the handler runs once for each successful write of the
variable of the event that passes its specifier while the monitor runs: in their order, with the
value that was replaced and the one that was written, and for nothing else. -/
theorem a_subscribed_handler_hears_each_change_of_its_variable {package : Option String}
    {units : List SourceUnit} (horderly : IsOrderly package units) {monitor : Source.Monitor}
    (hmonitor : .monitor monitor ∈ declarationsOf units)
    (haccepted : (Report.outcome true package (SpaceIndex.ofUnits units) (.monitor monitor)).isOk)
    {space : Source.Namespace} (hspace : .space space ∈ declarationsOf units)
    {path : List String} {name : String} (hdeclares : Source.Declares space.body path name)
    {event : String} {emitter : Expr} {specifier : Option Specifier} {span : Option Source.Span}
    (hevent : .event ⟨event, .typed .change emitter specifier, span⟩ ∈ monitor.body)
    (hemitter : IsChain emitter (space.name :: (path ++ [name])))
    {handler : Source.HandlerDecl} (hhandler : .handler handler ∈ monitor.body)
    (hkind : EventKind.ofTypeName? handler.paramType = some .change) (who : String)
    (store : Store) :
    ∃ numbers w n w',
      linkAll (notingBindings (Source.qualify package monitor.name) handler.name who) 0
        (Report.ofUnits units true).blueprints { stores := [store] } = (.ok numbers, w) ∧
      n ∈ numbers ∧
      w.monitors[n]?.map (·.qualifiedName) = some (Source.qualify package monitor.name) ∧
      w.subscribe n event handler.name = .ok w' ∧
      ∀ steps, (runSteps w' steps).2.journal =
        (changesOf n ⟨space.name, path, name⟩ specifier true (runSteps w' steps).1).map
          (noteOf (Source.qualify package monitor.name ++ "." ++ event ++ "." ++
            Text.join "." (space.name :: (path ++ [name]))) who ⟨space.name, path, name⟩) := by
  have hnames := horderly.isName hspace hdeclares
  obtain ⟨numbers, w, hlink, hsystem, hall⟩ := linkAll_links
    (notingBindings (Source.qualify package monitor.name) handler.name who) (fun _ _ => rfl)
    (fun decl hdecl => horderly.isTidy hdecl) horderly.monitors horderly.spaces
    (fun decl hdecl v hv => horderly.isLiteral hdecl hv) store
  obtain ⟨n, hn, m, hm, hlinked⟩ := hall monitor hmonitor haccepted
  obtain ⟨source, hsource, route, filter, hroute, htuned, hpasses⟩ :=
    hlinked.changes event emitter specifier span hevent
  obtain ⟨observer, hobserver, hobskind, howner, hreact⟩ :=
    hlinked.handlers handler .change hhandler hkind (by decide)
  rw [reaction_notingBindings] at hreact
  have hroute' := ofEmitter?_of_isChain hemitter hnames (Source.qualify package monitor.name) event
    (horderly.canonical? hspace)
  -- The event was linked with the route of its chain, which names what the namespace publishes.
  cases hroute.symm.trans hroute'
  generalize hwatch : ({
    monitor := n, source, observer
    queue := Source.qualify package monitor.name ++ "." ++ event ++ "." ++
      Text.join "." (space.name :: (path ++ [name]))
    place := ⟨space.name, path, name⟩, specifier } : Watch) = watch
  have hsound : watch.IsSound := by
    rw [← hwatch]
    refine ⟨fun s hs => (hnames s (List.mem_cons_of_mem _ hs)).undotted, hobskind, howner, ?_⟩
    intro payload
    rw [hreact]
    trivial
  obtain ⟨w', hsubscribe, hwatching, hjournal⟩ := subscribe_isWatching hsystem hsound
    (by rw [← hwatch]; exact hm) (by rw [← hwatch]; exact hsource)
    (by rw [← hwatch]; exact hobserver) (by rw [← hwatch]; exact htuned)
    (by rw [← hwatch]; exact hpasses)
  refine ⟨numbers, w, n, w', ?_, hn, ?_, ?_, fun steps => ?_⟩
  · rw [blueprints_ofUnits horderly.packaged]
    exact hlink
  · rw [hm, Option.map_some, hlinked.name]
  · rw [← hwatch] at hsubscribe
    exact hsubscribe
  · rw [hwatching.run steps, hjournal, List.nil_append, List.map_eq_flatMap, ← hwatch]
    congr 1
    funext change
    show (observer.react _).entries _ = _
    rw [hreact]
    rfl

/-- A package in which a monitor watches a limit of a namespace through a specifier. -/
def limitSpace : Source.Namespace :=
  ⟨"cpu", [
    .variable ⟨"load", none, .literal (.number "10"), true⟩,
    .space "limits" [.variable ⟨"max", none, .literal (.number "5"), true⟩] none], none⟩

def limitSpecifier : Specifier := .leaf .above (.literal (.number "90")) false

def limitMonitor : Source.Monitor :=
  ⟨"Perf", ["cpu"], [
    .event ⟨"hot", .typed .change (.chain ["cpu", "limits", "max"]) (some limitSpecifier), none⟩,
    .handler ⟨"onHot", "change", "ChangeEvent", "", none, none⟩], none⟩

def limitUnits : List SourceUnit :=
  [⟨some "demo", [.space limitSpace, .monitor limitMonitor]⟩]

/-- The package linked over an empty store, with the numbers of its monitors. -/
def limitSystem : Except Refusal (List Nat) × World :=
  linkAll (notingBindings "demo.Perf" "onHot" "onHot") 0 (Report.ofUnits limitUnits true).blueprints
    { stores := [.memory []] }

theorem the_handler_of_a_limit_hears_its_changes :
    IsOrderly (some "demo") limitUnits ∧ ∃ numbers w n w',
      limitSystem = (.ok numbers, w) ∧ n ∈ numbers ∧
      w.monitors[n]?.map (·.qualifiedName) = some "demo.Perf" ∧
      w.subscribe n "hot" "onHot" = .ok w' ∧
      ∀ steps, (runSteps w' steps).2.journal =
        (changesOf n ⟨"cpu", ["limits"], "max"⟩ (some limitSpecifier) true (runSteps w' steps).1).map
          (noteOf "demo.Perf.hot.cpu.limits.max" "onHot" ⟨"cpu", ["limits"], "max"⟩) := by
  have horderly : IsOrderly (some "demo") limitUnits := by decide +kernel
  have hmonitor : .monitor limitMonitor ∈ declarationsOf limitUnits := by
    simp [limitUnits, declarationsOf]
  have haccepted : (Report.outcome true (some "demo") (SpaceIndex.ofUnits limitUnits)
      (.monitor limitMonitor)).isOk = true := by decide +kernel
  have hspace : .space limitSpace ∈ declarationsOf limitUnits := by
    simp [limitUnits, declarationsOf]
  have hdeclares : Source.Declares limitSpace.body ["limits"] "max" :=
    ⟨_, none, List.mem_cons_of_mem _ List.mem_cons_self, _, List.mem_cons_self, rfl⟩
  have hemitter : IsChain (.chain ["cpu", "limits", "max"])
      (limitSpace.name :: (["limits"] ++ ["max"])) :=
    .member "max" none (.member "limits" none (.root "cpu"))
  have hlaw := a_subscribed_handler_hears_each_change_of_its_variable horderly hmonitor haccepted
    hspace hdeclares List.mem_cons_self hemitter (List.mem_cons_of_mem _ List.mem_cons_self) rfl
    "onHot" (.memory [])
  have hname : Source.qualify (some "demo") limitMonitor.name = "demo.Perf" := by decide +kernel
  have hqueue : "demo.Perf" ++ "." ++ "hot" ++ "." ++
      Text.join "." (limitSpace.name :: (["limits"] ++ ["max"])) = "demo.Perf.hot.cpu.limits.max" := by
    decide +kernel
  rw [hname, hqueue] at hlaw
  unfold limitSystem
  exact ⟨horderly, hlaw⟩

/-- Two writes above the bound while the monitor runs, one below it, and one above it while the
monitor is paused. -/
def limitSteps : List Step :=
  let max (value : String) : Step := .set ⟨"cpu", ["limits"], "max"⟩ (.str value)
  [max "95", max "50", .pause 0, max "99", .resume 0, max "98"]

-- Of these steps the handler hears of the first and the last.
example : ((limitSystem.2.subscribe 0 "hot" "onHot").toOption.map fun w =>
    (changesOf 0 ⟨"cpu", ["limits"], "max"⟩ (some limitSpecifier) true (runSteps w limitSteps).1).map
      fun change => (change.1.compact, change.2.compact)) =
    some [("5", "\"95\""), ("\"99\"", "\"98\"")] := by
  decide +kernel

end Watchtower.Linking
