-- Linked events. Linking an event adds one source to the world. The source of a change event is
-- tuned to the variable at which its emitter points, and lets the changes pass that its specifier
-- lets pass.
import Watchtower.Linking.Event
import Watchtower.Proofs.Blueprint.Monitor
import Watchtower.Proofs.Linking.Space
import Watchtower.Proofs.Live.Growth
import Watchtower.Proofs.Predicate.Lowering
import Watchtower.Proofs.Route

namespace Watchtower

open Source (Specifier)

/-- A change passes a specifier when the leaves of its source say so. Without a specifier every
change passes. -/
def passes (specifier : Option Specifier) (previous current : Json) : Bool :=
  specifier.all fun node => node.clauses?.any fun clauses =>
    match clauses.decide previous current with
    | .ok holds => holds
    | .error _ => false

namespace Linking

open Live

/-! ## Filters -/

theorem nestedType_of_some {b t : Blueprint} {type : String} (h : b.nested? type = some t)
    (w : World) : nestedType b type w = (.ok t, w) := by
  unfold nestedType
  rw [h]
  rfl

/-- The filter of a change event lets just those changes pass that pass its specifier. -/
theorem filterOf_ofChange {scope : MonitorScope} {names names' : NameSupply} {name : String}
    {specifier : Option Specifier} {predicate : Option Blueprint} (emitter : Source.Expr)
    (route : Route) (w : World)
    (h : predicateType scope names name specifier = .ok (predicate, names')) :
    ∃ filter, filterOf (Blueprint.ofChange scope name emitter route predicate) w = (.ok filter, w) ∧
      ∀ previous current, filter.all (·.passes previous current) =
        passes specifier previous current := by
  cases specifier with
  | none =>
    cases h
    exact ⟨none, rfl, fun _ _ => rfl⟩
  | some node =>
    obtain ⟨⟨compiled, rest⟩, hcompiled, hok⟩ := bind_eq_ok.mp h
    cases hok
    obtain ⟨clauses, hclauses, hdecides⟩ := ofSpecifier_decides hcompiled
    refine ⟨some ⟨compiled.predicate, thresholdsOf compiled.fields⟩, ?_, ?_⟩
    · generalize hp : Blueprint.ofPredicate scope name compiled = p
      have hnested : (Blueprint.ofChange scope name emitter route (some p)).nested? p.name =
          some p := by
        simp [Blueprint.nested?, Blueprint.ofChange]
      have hfilter : linkFilter p w =
          (.ok ⟨compiled.predicate, thresholdsOf compiled.fields⟩, w) := by
        rw [← hp]
        rfl
      unfold filterOf
      show (nestedType _ p.name >>= fun b => linkFilter b >>= fun filter => pure (some filter)) w = _
      rw [bind_of_ok (nestedType_of_some hnested w), bind_of_ok hfilter]
      rfl
    · intro previous current
      simp only [passes, Option.all_some, hclauses, Option.any_some]
      unfold ChangeFilter.passes
      cases hdecide : clauses.decide previous current with
      | ok holds => simp only [hdecides, hdecide]
      | error fault => simp only [hdecides, hdecide]

/-! ## Wiring -/

/-- Statements that end well under their guard are followed by the rest of a constructor. -/
theorem wire_guarded {b : Blueprint} {source : Nat} {probed : Bool} {site : String}
    {body : List Stmt} {w w' : World} {outcome : Option PUnit} (rest : List Stmt)
    (h : Link.ofRun b.qualifiedName (Run.guarded site (body.forM (wireStmt source probed))) w =
      (.ok outcome, w')) :
    (wire { b with constructor := .guarded site body :: rest } source probed) w =
      (wire { b with constructor := rest } source probed) w' := by
  unfold wire
  apply forM_cons_of_ok
  show (Link.ofRun b.qualifiedName _ >>= _) w = _
  rw [bind_of_ok h]
  rfl

/-- The statement that starts a consumer ends well, whether the consumer is started or its fault
is recorded. -/
theorem wire_startConsumer (name site : String) (source : Nat) (probed : Bool)
    (config : ConsumerConfig) (hcontext : config.context = "") (filter : DeliveryFilter)
    (w : World) : ∃ outcome w', Link.ofRun name (Run.guarded site
      ([Stmt.startConsumer config.exchange config.routingKey config.queue filter].forM
        (wireStmt source probed))) w = (.ok outcome, w') ∧
      (w.consume source config = .ok w' ∨
        ∃ fault, w.consume source config = .error fault ∧ w' = w.record site fault) := by
  obtain ⟨exchange, routingKey, queue, context⟩ := config
  subst hcontext
  cases hconsume : w.consume source { exchange, routingKey, queue } with
  | ok tuned =>
    refine ⟨some (), tuned, ?_, .inl rfl⟩
    apply Link.ofRun_of_ok
    apply Run.guarded_of_ok
    have hstmt : wireStmt source probed (.startConsumer exchange routingKey queue filter) w =
        (.ok (), tuned) := by
      apply Run.update_of_ok
      rw [hconsume]
      rfl
    exact (forM_cons_of_ok hstmt).trans rfl
  | error fault =>
    refine ⟨none, w.record site fault, ?_, .inr ⟨fault, rfl, rfl⟩⟩
    apply Link.ofRun_of_ok
    apply Run.guarded_of_fault
    have hstmt : wireStmt source probed (.startConsumer exchange routingKey queue filter) w =
        (.error (.fault fault), w) := by
      apply Run.update_of_error
      rw [hconsume]
      rfl
    exact bind_of_error hstmt

/-- The statement that opens a probe ends well, whether the probe is opened or its fault is
recorded. -/
theorem wire_openProbe (name site : String) (source : Nat) (routingKey : String) (w : World) :
    ∃ outcome w', Link.ofRun name (Run.guarded site
      ([Stmt.openProbe routingKey].forM (wireStmt source true))) w = (.ok outcome, w') ∧
      (w' = (w.openProbe source routingKey).2 ∨
        ∃ fault, w' = (w.openProbe source routingKey).2.record site fault) := by
  have hstmt : wireStmt source true (.openProbe routingKey) w =
      Run.ofExcept (w.openProbe source routingKey).1 (w.openProbe source routingKey).2 := rfl
  cases hopen : w.openProbe source routingKey with
  | mk outcome w' =>
    rw [hopen] at hstmt
    cases outcome with
    | ok =>
      refine ⟨some (), w', ?_, .inl rfl⟩
      exact Link.ofRun_of_ok (Run.guarded_of_ok ((forM_cons_of_ok hstmt).trans rfl))
    | error fault =>
      refine ⟨none, w'.record site fault, ?_, .inr ⟨fault, rfl⟩⟩
      exact Link.ofRun_of_ok (Run.guarded_of_fault (bind_of_error hstmt))

/-! ## Sources -/

/-- The consumer that a route asks for. -/
def routeConfig (route : Route) : ConsumerConfig :=
  { exchange := route.exchange, routingKey := route.routingKey, queue := route.queue }

/-- The source of a change event, as it is added. -/
def changeSource (scope : MonitorScope) (name : String) (route : Route)
    (filter : Option ChangeFilter) : Live.Source :=
  { name := Text.lastDotted (scope.member name)
    trigger := .change route.routingKey route.variablePath filter }

/-- The source of an event that a probe raises, as it is added. -/
def probeSource (scope : MonitorScope) (name : String) (kind : EventKind) (emitter : Source.Expr) :
    Live.Source :=
  { name := Text.lastDotted (scope.member name), trigger := .probe kind emitter.text }

/-- The consumer of an event that a probe raises. -/
def probeConfig (key : String) : ConsumerConfig :=
  { exchange := probeExchange, routingKey := key, queue := key }

/-- The site at which the faults of an event are recorded while it is linked. -/
def eventSite (scope : MonitorScope) (name : String) : String :=
  scope.nestedName name "Event" ++ "::new"

/-- A change event whose filter is linked gets a source with it. -/
theorem linkEvent_of_filter {scope : MonitorScope} {name : String} {emitter : Source.Expr}
    {route : Route} {predicate : Option Blueprint} {filter : Option ChangeFilter} {w : World}
    (hfilter : filterOf (Blueprint.ofChange scope name emitter route predicate) w =
      (.ok filter, w)) :
    ∃ w', linkEvent (Blueprint.ofChange scope name emitter route predicate) w =
        (.ok w.sources.length, w') ∧
      ((w.addSource (changeSource scope name route filter)).2.consume w.sources.length
          (routeConfig route) = .ok w' ∨
        ∃ fault, (w.addSource (changeSource scope name route filter)).2.consume w.sources.length
            (routeConfig route) = .error fault ∧
          w' = (w.addSource (changeSource scope name route filter)).2.record
            (eventSite scope name) fault) := by
  generalize hs : changeSource scope name route filter = s
  generalize hb : Blueprint.ofChange scope name emitter route predicate = b at hfilter
  obtain ⟨outcome, w', hwire, hconsume⟩ := wire_startConsumer b.qualifiedName
    (eventSite scope name) w.sources.length false (routeConfig route) rfl
    (.path route.variablePath (predicate.map fun _ => predicateField)) (w.addSource s).2
  refine ⟨w', ?_, hs ▸ hconsume⟩
  have hkind : b.kind = .changeEvent route.routingKey route.variablePath := by
    rw [← hb]
    rfl
  have hadded : ({ name := Text.lastDotted b.qualifiedName
                   trigger := .change route.routingKey route.variablePath filter } :
      Live.Source) = s := by
    rw [← hs, ← hb]
    rfl
  have hwired : wire b w.sources.length false (w.addSource s).2 = (.ok (), w') := by
    have hguarded := wire_guarded [] hwire
    rw [← hb] at hguarded ⊢
    exact hguarded
  unfold linkEvent
  simp only [hkind]
  rw [bind_of_ok hfilter, modifyGet_bind, hadded]
  exact bind_of_ok hwired

/-- A change event is linked: its source is added, and then its consumer is started, or else the
fault is recorded. -/
theorem linkEvent_ofChange_eq {scope : MonitorScope} {names names' : NameSupply} {name : String}
    {specifier : Option Specifier} {predicate : Option Blueprint} (emitter : Source.Expr)
    (route : Route) (w : World)
    (hpredicate : predicateType scope names name specifier = .ok (predicate, names')) :
    ∃ filter w', linkEvent (Blueprint.ofChange scope name emitter route predicate) w =
        (.ok w.sources.length, w') ∧
      (∀ previous current, filter.all (·.passes previous current) =
        passes specifier previous current) ∧
      ((w.addSource (changeSource scope name route filter)).2.consume w.sources.length
          (routeConfig route) = .ok w' ∨
        ∃ fault, (w.addSource (changeSource scope name route filter)).2.consume w.sources.length
            (routeConfig route) = .error fault ∧
          w' = (w.addSource (changeSource scope name route filter)).2.record
            (eventSite scope name) fault) := by
  obtain ⟨filter, hfilter, hpasses⟩ := filterOf_ofChange emitter route w hpredicate
  obtain ⟨w', hlink, hconsume⟩ := linkEvent_of_filter hfilter
  exact ⟨filter, w', hlink, hpasses, hconsume⟩

/-- A change event gets a source. Where its queue is free the source is tuned to the variable of
its route. -/
theorem linkEvent_ofChange {scope : MonitorScope} {names names' : NameSupply} {name : String}
    {specifier : Option Specifier} {predicate : Option Blueprint} {own : String → Prop}
    (emitter : Source.Expr) (route : Route) (w : World)
    (hpredicate : predicateType scope names name specifier = .ok (predicate, names'))
    (hown : own route.queue) :
    ∃ filter w', linkEvent (Blueprint.ofChange scope name emitter route predicate) w =
        (.ok w.sources.length, w') ∧ w.Adds own w' ∧
      (∀ previous current, filter.all (·.passes previous current) =
        passes specifier previous current) ∧
      (w.IsWired → (∀ c ∈ w.consumers, c.config.queue ≠ route.queue) →
        w'.IsTuned w.sources.length (routeConfig route) route.variablePath filter) := by
  obtain ⟨filter, w', hlink, hpasses, hconsume⟩ :=
    linkEvent_ofChange_eq emitter route w hpredicate
  generalize hs : changeSource scope name route filter = s at hconsume
  have hsource : s.observers = [] ∧ s.paused = false ∧ s.consumer = none ∧
      s.trigger = .change route.routingKey route.variablePath filter := by
    rw [← hs]
    exact ⟨rfl, rfl, rfl, rfl⟩
  have hadds : w.Adds own (w.addSource s).2 := World.adds_addSource own w hsource.1 hsource.2.1
  refine ⟨filter, w', hlink, hadds.consume hown hconsume, hpasses, fun hwired hfree => ?_⟩
  have hlast : (w.addSource s).2.sources[w.sources.length]? = some s := by
    simp [World.addSource]
  -- The queue is free and the source is new, so the consumer was started.
  have htuned : (w.addSource s).2.consume w.sources.length (routeConfig route) =
      .ok ((w.addSource s).2.tune w.sources.length (routeConfig route)) := by
    have hbus : (w.addSource s).2.bus.isBound (routeConfig route).queue = false :=
      hwired.isBound_eq_false hfree
    rw [World.consume_eq]
    simp [hbus, hlast, hsource.2.2.1]
  have hw' : w' = (w.addSource s).2.tune w.sources.length (routeConfig route) := by
    rcases hconsume with hok | ⟨fault, herror, -⟩
    · rw [htuned] at hok
      exact (Except.ok.inj hok).symm
    · rw [htuned] at herror
      cases herror
  rw [hw']
  refine World.isTuned_tune hlast hsource.2.2.2 fun c hc => ?_
  obtain ⟨number, hlt, hlistener⟩ := hwired.listens c hc
  exact World.listensTo_eq_false hlistener (by omega)

/-- An event that a probe raises is linked once its probe was opened, or the fault of this was
recorded. -/
theorem linkEvent_of_opened {scope : MonitorScope} {name : String} {kind : EventKind}
    {emitter : Source.Expr} {w w₁ : World} {opened : Option PUnit}
    (hopen : Link.ofRun (scope.member name) (Run.guarded (eventSite scope name)
      ([Stmt.openProbe (scope.member name)].forM (wireStmt w.sources.length true)))
        (w.addSource (probeSource scope name kind emitter)).2 = (.ok opened, w₁)) :
    ∃ w', linkEvent (Blueprint.ofProbe scope name kind emitter) w =
        (.ok w.sources.length, w') ∧
      (w₁.consume w.sources.length (probeConfig (scope.member name)) = .ok w' ∨
        ∃ fault, w₁.consume w.sources.length (probeConfig (scope.member name)) = .error fault ∧
          w' = w₁.record (eventSite scope name) fault) := by
  generalize hs : probeSource scope name kind emitter = s at hopen
  generalize hb : Blueprint.ofProbe scope name kind emitter = b
  obtain ⟨started, w', hstart, hconsume⟩ := wire_startConsumer b.qualifiedName
    (eventSite scope name) w.sources.length true
    (probeConfig (scope.member name)) rfl (.payload kind) w₁
  refine ⟨w', ?_, hconsume⟩
  have hkind : b.kind = .probeEvent kind emitter.text := by
    rw [← hb]
    rfl
  have hadded : ({ name := Text.lastDotted b.qualifiedName
                   trigger := .probe kind emitter.text } : Live.Source) = s := by
    rw [← hs, ← hb]
    rfl
  have hname : b.qualifiedName = scope.member name := by
    rw [← hb]
    rfl
  rw [← hname] at hopen
  have hwired : wire b w.sources.length true (w.addSource s).2 = (.ok (), w') := by
    have hguarded := (wire_guarded _ hopen).trans (wire_guarded [] hstart)
    rw [← hb] at hguarded ⊢
    exact hguarded
  unfold linkEvent
  simp only [hkind]
  rw [modifyGet_bind, hadded]
  exact bind_of_ok hwired

/-- An event that a probe raises is linked: its source is added, its probe opened and then its
consumer started, and what fails of the two is recorded. -/
theorem linkEvent_ofProbe_eq (scope : MonitorScope) (name : String) (kind : EventKind)
    (emitter : Source.Expr) (w : World) :
    ∃ w₁ w', linkEvent (Blueprint.ofProbe scope name kind emitter) w =
        (.ok w.sources.length, w') ∧
      (w₁ = ((w.addSource (probeSource scope name kind emitter)).2.openProbe w.sources.length
          (scope.member name)).2 ∨
        ∃ fault, w₁ = ((w.addSource (probeSource scope name kind emitter)).2.openProbe
          w.sources.length (scope.member name)).2.record (eventSite scope name) fault) ∧
      (w₁.consume w.sources.length (probeConfig (scope.member name)) = .ok w' ∨
        ∃ fault, w₁.consume w.sources.length (probeConfig (scope.member name)) = .error fault ∧
          w' = w₁.record (eventSite scope name) fault) := by
  obtain ⟨opened, w₁, hopen, hprobe⟩ := wire_openProbe (scope.member name)
    (eventSite scope name) w.sources.length (scope.member name)
    (w.addSource (probeSource scope name kind emitter)).2
  obtain ⟨w', hlink, hconsume⟩ := linkEvent_of_opened hopen
  exact ⟨w₁, w', hlink, hprobe, hconsume⟩

/-- An event that a probe raises gets a source. -/
theorem linkEvent_ofProbe {scope : MonitorScope} {own : String → Prop} (name : String)
    (kind : EventKind) (emitter : Source.Expr) (w : World) (hown : own (scope.member name)) :
    ∃ w', linkEvent (Blueprint.ofProbe scope name kind emitter) w = (.ok w.sources.length, w') ∧
      w.Adds own w' := by
  obtain ⟨w₁, w', hlink, hprobe, hconsume⟩ := linkEvent_ofProbe_eq scope name kind emitter w
  have hadds : w.Adds own (w.addSource (probeSource scope name kind emitter)).2 :=
    World.adds_addSource own w rfl rfl
  have hadds₁ : w.Adds own w₁ := by
    rcases hprobe with rfl | ⟨fault, rfl⟩
    · exact hadds.openProbe _
    · exact (hadds.openProbe _).record _ _
  exact ⟨w', hlink, hadds₁.consume hown hconsume⟩

end Linking

end Watchtower
