-- Blueprints: what monitors and namespaces are lowered to. A blueprint is a type with fields,
-- a constructor, methods and nested types, from which code is rendered and running monitors
-- are linked.
import Watchtower.Blueprint.Predicate
import Watchtower.Event.Kind

namespace Watchtower

/-! ## Statements -/

/-- Where a piece of user code comes from. -/
inductive CodeOrigin where
  | block (index : Nat)
  | handler (name : String)
deriving DecidableEq, Repr

/-- The two states of a monitor. -/
inductive RunState where
  | paused
  | running
deriving DecidableEq, Repr

/-- The state is that of a paused monitor. -/
def RunState.isPaused : RunState → Bool
  | .paused => true
  | .running => false

/-- Which of the events of a queue are delivered. -/
inductive DeliveryFilter where
  /-- Events of one kind. -/
  | payload (kind : EventKind)
  /-- Changes of one variable, perhaps only those that a predicate lets pass. -/
  | path (path : String) (predicate : Option String)
deriving DecidableEq, Repr

/-- A statement of a constructor or a method. -/
inductive Stmt where
  | userCode (origin : CodeOrigin) (source : String)
  | callSelf (method : String)
  | callSuper (method : String)
  | callField (field method : String)
  | returnIf (state : RunState)
  /-- Statements whose failure is reported at a site and goes no further. -/
  | guarded (site : String) (body : List Stmt)
  | constructProxy (field space : String)
  | connectStore (space exchange : String)
  | registerVariable (name : String) (initializer : Source.Expr) (writable : Bool)
  | openProbe (routingKey : String)
  | startConsumer (exchange routingKey queue : String) (filter : DeliveryFilter)
  | dispatchTyped (kind : EventKind) (handler : String)
  | dispatchInterval (handler : String)
  | getVariable (name : String)
  | setVariable (name : String)
  | returnField (field : String)
  | returnPredicate (predicate : Predicate)
  | returnConst (value : Bool)
deriving Repr

/-! ## Members -/

/-- The type of a field. -/
inductive FieldType where
  | value (declared : Option String)
  | periodic
  | event (type : String)
  | handler (type : String)
  | proxy (space : String)
  | childProxy (type : String)
  | threshold
  | predicate (type : String)
deriving DecidableEq, Repr

/-- What a field begins with. -/
inductive FieldInit where
  | expr (expr : Source.Expr)
  | cron (expression : String)
  | construct (type : String)
  | decimal (value : Decimal)
deriving DecidableEq

/-- A field. -/
structure Field where
  name : String
  type : FieldType
  constant : Bool := true
  /-- All instances share the field. -/
  shared : Bool := false
  init : Option FieldInit := none
deriving DecidableEq

/-- A method. -/
structure Method where
  name : String
  /-- The parameters, each with its type. -/
  params : List (String × String) := []
  returns : Option String := none
  overrides : Bool := false
  /-- The method hands faults to its caller. -/
  propagates : Bool := false
  body : List Stmt

/-- What a blueprint stands for. -/
inductive BlueprintKind where
  | monitor
  | namespaceProxy (root path : String)
  | namespaceStorage
  | probeEvent (payload : EventKind) (emitter : String)
  | changeEvent (space path : String)
  | intervalJob (handler : String)
  | observerAdapter (payload : EventKind) (handler : String)
  | predicate
deriving DecidableEq, Repr

/-- A blueprint. -/
structure Blueprint where
  name : String
  qualifiedName : String
  kind : BlueprintKind
  doc : Option String := none
  fields : List Field := []
  constructor : List Stmt := []
  methods : List Method := []
  nested : List Blueprint := []

namespace Blueprint

/-- The method with this name. -/
def method? (b : Blueprint) (name : String) : Option Method :=
  b.methods.find? (·.name == name)

/-- The field with this name. -/
def field? (b : Blueprint) (name : String) : Option Field :=
  b.fields.find? (·.name == name)

/-- The nested type with this name. -/
def nested? (b : Blueprint) (name : String) : Option Blueprint :=
  b.nested.find? (·.name == name)

mutual

/-- A blueprint and all types nested in it, each before those within it. -/
def walk : Blueprint → List Blueprint
  | ⟨name, qualifiedName, kind, doc, fields, constructor, methods, nested⟩ =>
    ⟨name, qualifiedName, kind, doc, fields, constructor, methods, nested⟩ :: walkAll nested

/-- All types of a list of blueprints. -/
def walkAll : List Blueprint → List Blueprint
  | [] => []
  | b :: rest => walk b ++ walkAll rest

end

end Blueprint

/-- The statements of a body, with those of its guarded parts in place of them. -/
def Stmt.unguarded (body : List Stmt) : List Stmt :=
  body.flatMap fun
    | .guarded _ inner => inner
    | stmt => [stmt]

end Watchtower
