-- The bindings for which blueprints ask. The constructor of a type says which consumers it starts,
-- and over a monitor with all its types these are the bindings of the declared events, in their
-- order.
import Mathlib.Data.List.Flatten
import Watchtower.Proofs.Blueprint.Proxies
import Watchtower.Proofs.Manifest

namespace Watchtower

open Source (MonitorItem Declaration)

/-! ## Constructors -/

/-- The binding for which a statement asks, if it starts a consumer. -/
def Stmt.binding? : Stmt → Option Binding
  | .startConsumer exchange routingKey queue _ => some ⟨exchange, routingKey, queue⟩
  | _ => none

namespace Blueprint

/-- The bindings for which the constructor of a type asks. -/
def ownBindings (b : Blueprint) : List Binding :=
  (Stmt.unguarded b.constructor).filterMap Stmt.binding?

/-- The bindings for which the constructors of a type and of all types nested in it ask. -/
def bindings (b : Blueprint) : List Binding :=
  b.walk.flatMap ownBindings

/-- The type is that of an event. -/
def isEvent (b : Blueprint) : Bool :=
  match b.kind with
  | .probeEvent .. | .changeEvent .. => true
  | _ => false

/-- The types of the events of a monitor. -/
def eventTypes (b : Blueprint) : List Blueprint :=
  b.nested.filter isEvent

theorem flatMap_walkAll {β : Type} (f : Blueprint → List β) (bs : List Blueprint) :
    (walkAll bs).flatMap f = bs.flatMap fun b => b.walk.flatMap f := by
  induction bs with
  | nil => rfl
  | cons b rest ih => rw [walkAll, List.flatMap_append, ih, List.flatMap_cons]

theorem bindings_eq (b : Blueprint) : b.bindings = b.ownBindings ++ b.nested.flatMap bindings := by
  rw [bindings, walk_eq, List.flatMap_cons, flatMap_walkAll]
  rfl

/-- The types of the events ask for no more than all types. -/
theorem sublist_bindings (b : Blueprint) : (b.eventTypes.flatMap bindings).Sublist b.bindings := by
  rw [bindings_eq]
  exact (List.filter_sublist.flatMap bindings).trans (List.sublist_append_right _ _)

end Blueprint

/-! ## Types of members -/

section Types

variable {scope : MonitorScope}

theorem bindings_of_predicateType {names names' : NameSupply} {event : String}
    {specifier : Option Source.Specifier} {predicate : Option Blueprint}
    (h : predicateType scope names event specifier = .ok (predicate, names')) :
    predicate.toList.flatMap Blueprint.bindings = [] := by
  cases specifier with
  | none =>
    cases h
    rfl
  | some node =>
    obtain ⟨⟨compiled, rest⟩, -, hok⟩ := bind_eq_ok.mp h
    cases hok
    rfl

/-- The type of a member asks for the binding that is listed for the member. -/
theorem IsTypeOf.bindings {item : MonitorItem} {t : Blueprint} (h : IsTypeOf scope item t) :
    t.bindings = (bindingOf? scope item).toList := by
  rw [Blueprint.bindings_eq]
  cases h with
  | @change name emitter specifier span route _ _ predicate hroute hpredicate =>
    have hbinding : bindingOf? scope (.event ⟨name, .typed .change emitter specifier, span⟩) =
        some route.binding := by
      simp [bindingOf?, MonitorItem.event?, EventEntry.ofDeclared, hroute]
    rw [hbinding]
    exact congrArg (_ :: ·) (bindings_of_predicateType hpredicate)
  | @probe name occurrence emitter span hoccurrence =>
    cases occurrence with
    | change => exact absurd rfl hoccurrence
    | _ => rfl
  | @handler decl kind hkind =>
    unfold Blueprint.ofHandler
    split <;> rfl

theorem isEvent_ofHandler (decl : Source.HandlerDecl) (kind : EventKind) :
    (Blueprint.ofHandler scope decl kind).isEvent = false := by
  unfold Blueprint.ofHandler
  split <;> rfl

/-- The name of the type of an event, if a statement declares one that has a type. -/
def eventType? (scope : MonitorScope) : MonitorItem → Option String
  | .event ⟨name, .typed .., _⟩ => some (scope.nestedName name "Event")
  | _ => none

/-- The types of events are those of the statements that declare one. -/
theorem IsTypeOf.eventType {item : MonitorItem} {t : Blueprint} (h : IsTypeOf scope item t) :
    ([t].filter Blueprint.isEvent).map (·.name) = (eventType? scope item).toList := by
  cases h with
  | change hroute hpredicate => rfl
  | probe hoccurrence => rfl
  | @handler decl kind hkind =>
    rw [List.filter_cons_of_neg (by simp [isEvent_ofHandler])]
    rfl

end Types

/-! ## Monitors -/

theorem flatMap_of_forall₂ {α β γ : Type} {R : α → β → Prop} {f : α → List γ} {g : β → List γ}
    {as : List α} {bs : List β} (h : List.Forall₂ R as bs) (hfg : ∀ a b, R a b → g b = f a) :
    bs.flatMap g = as.flatMap f := by
  induction h with
  | nil => rfl
  | cons hfirst hrest ih => rw [List.flatMap_cons, List.flatMap_cons, hfg _ _ hfirst, ih]

/-- Where only statements with a type have a result, the others can be left out. -/
theorem flatMap_filter_hasType {γ : Type} {f : MonitorItem → Option γ} (body : List MonitorItem)
    (hf : ∀ item, hasType item = false → f item = none) :
    (body.filter hasType).flatMap (fun item => (f item).toList) = body.filterMap f := by
  rw [← List.filterMap_eq_flatMap_toList, List.filterMap_filter]
  refine List.filterMap_congr fun item _ => ?_
  cases hhas : hasType item with
  | false => simp [hf item hhas]
  | true => simp

section Monitors

variable {package : Option String} {index : SpaceIndex} {decl : Source.Monitor} {b : Blueprint}

/-- A monitor with all its types asks for the bindings of its events. -/
theorem IsLoweredFrom.bindings (h : IsLoweredFrom package index decl b) :
    b.bindings = bindingsOf package index decl := by
  obtain ⟨blocks, -, hconstructor⟩ := h.constructor
  have hown : b.ownBindings = [] := by
    rw [Blueprint.ownBindings, hconstructor]
    simp [Stmt.unguarded, Stmt.binding?]
  rw [Blueprint.bindings_eq, hown, List.nil_append,
    flatMap_of_forall₂ h.nested fun _ _ hof => hof.bindings, bindingsOf]
  refine flatMap_filter_hasType _ fun item hhas => ?_
  rcases item with v | ⟨event, cron | ⟨occurrence, chain, specifier⟩, span⟩ | handler | source
  · rfl
  · rfl
  · cases hhas
  · rfl
  · rfl

/-- The types of the events are named in the order of the declarations. -/
theorem IsLoweredFrom.names_eventTypes (h : IsLoweredFrom package index decl b) :
    b.eventTypes.map (·.name) =
      decl.body.filterMap (eventType? (monitorScope package index decl)) := by
  have hsingle : b.eventTypes.map (·.name) =
      b.nested.flatMap fun t => ([t].filter Blueprint.isEvent).map (·.name) := by
    rw [← List.map_flatMap, ← List.filter_flatMap, List.flatMap_singleton']
    rfl
  rw [hsingle, flatMap_of_forall₂ h.nested fun _ _ hof => hof.eventType]
  refine flatMap_filter_hasType _ fun item hhas => ?_
  rcases item with v | ⟨event, cron | ⟨occurrence, chain, specifier⟩, span⟩ | handler | source
  · rfl
  · rfl
  · cases hhas
  · rfl
  · rfl

/-- The type of an event is lowered from a declared event. -/
theorem IsLoweredFrom.exists_event (h : IsLoweredFrom package index decl b) {t : Blueprint}
    (ht : t ∈ b.eventTypes) :
    ∃ event, .event event ∈ decl.body ∧
      IsTypeOf (monitorScope package index decl) (.event event) t := by
  obtain ⟨hnested, hevent⟩ := List.mem_filter.mp ht
  obtain ⟨item, hitem, hof⟩ := h.types hnested
  cases hof with
  | change hroute hpredicate => exact ⟨_, hitem, .change hroute hpredicate⟩
  | probe hoccurrence => exact ⟨_, hitem, .probe hoccurrence⟩
  | @handler handler kind hkind =>
    rw [isEvent_ofHandler] at hevent
    cases hevent

end Monitors

end Watchtower
