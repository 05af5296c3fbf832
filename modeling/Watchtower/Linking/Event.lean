-- Events linked from their blueprints: a source, with the probe and the consumer that its
-- constructor asks for.
import Watchtower.Blueprint.Thresholds
import Watchtower.Linking.Refusal

namespace Watchtower.Linking

open Live

/-- The filter that a predicate type stands for. -/
def linkFilter (b : Blueprint) : Link ChangeFilter :=
  match (b.method? "test").map Method.body with
  | some [.returnPredicate predicate] => return ⟨predicate, thresholdsOf b.fields⟩
  | _ => Link.refuse b.qualifiedName "predicate has no test body"

/-- The filter of a change event, if it has one. -/
def filterOf (b : Blueprint) : Link (Option ChangeFilter) :=
  let type := b.fields.findSome? fun field =>
    match field.type with
    | .predicate type => some type
    | _ => none
  match type with
  | none => return none
  | some type => do return some (← linkFilter (← nestedType b type))

/-- Runs a statement that wires a source. Only the sources of probes have probes. -/
def wireStmt (source : Nat) (probed : Bool) : Stmt → Run Unit
  | .openProbe routingKey =>
    if probed then Run.always (·.openProbe source routingKey)
    else Run.fault (.probe routingKey "change events are not raised by probes")
  | .startConsumer exchange routingKey queue _ => Run.update fun w => do
    return ((), ← w.consume source { exchange, routingKey, queue })
  | other =>
    Run.fault (.internal ("statement not supported in event constructors: " ++ other.outline))

/-- Runs the constructor of an event, which wires its source. -/
def wire (b : Blueprint) (source : Nat) (probed : Bool) : Link Unit :=
  b.constructor.forM fun
    | .guarded site body => do
      let _ ← Link.ofRun b.qualifiedName (Run.guarded site (body.forM (wireStmt source probed)))
    | other => refuseStmt b other

/-- Links an event, and gives the number of its source. -/
def linkEvent (b : Blueprint) : Link Nat := do
  let name := Text.lastDotted b.qualifiedName
  match b.kind with
  | .probeEvent kind expression =>
    let source ← modifyGet (·.addSource { name, trigger := .probe kind expression })
    wire b source true
    return source
  | .changeEvent space path =>
    let filter ← filterOf b
    let source ← modifyGet (·.addSource { name, trigger := .change space path filter })
    wire b source false
    return source
  | other => Link.refuse b.qualifiedName (other.outline ++ " is not an event type")

end Watchtower.Linking
