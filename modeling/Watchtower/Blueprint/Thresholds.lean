-- Specifiers lowered to named thresholds and a predicate over them. Thresholds are numbered
-- from left to right.
import Watchtower.Blueprint.Basic
import Watchtower.Blueprint.Names
import Watchtower.Rejection

namespace Watchtower

open Source (Specifier)

/-- The decimal that a threshold expression stands for: a number, or a text that is one. -/
def thresholdValue (value : Source.Expr) : Except Rejection Decimal :=
  let read (text : String) : Except Rejection Decimal :=
    match Decimal.ofText? (Text.trim text) with
    | some d => .ok d
    | none => .error (.invalidThreshold value.text)
  match value with
  | .literal (.number text) => read text
  | .literal (.string text) => read text
  | _ => .error (.invalidThreshold value.text)

/-- A lowered specifier. -/
structure CompiledSpecifier where
  thresholds : Thresholds
  predicate : Predicate

/-- Lowers a specifier, taking the names of its thresholds from a supply. -/
def CompiledSpecifier.ofSpecifier (names : NameSupply) :
    Specifier → Except Rejection (CompiledSpecifier × NameSupply)
  | .leaf relation value percentage => do
    let value ← thresholdValue value
    let (name, names) := names.fresh "threshold"
    return (⟨[(name, value)], .compare ⟨relation, name, percentage⟩⟩, names)
  | .node connective left right => do
    let (left, names) ← ofSpecifier names left
    let (right, names) ← ofSpecifier names right
    return (⟨left.thresholds ++ right.thresholds,
      .joined connective left.predicate right.predicate⟩, names)

/-- The field of a threshold. -/
def thresholdField (threshold : String × Decimal) : Field :=
  { name := threshold.1, type := .threshold, init := some (.decimal threshold.2) }

/-- The fields of the thresholds. -/
def CompiledSpecifier.fields (c : CompiledSpecifier) : List Field :=
  c.thresholds.map thresholdField

/-- The thresholds that fields hold. -/
def thresholdsOf (fields : List Field) : Thresholds :=
  fields.filterMap fun f =>
    match f.init with
    | some (.decimal value) => some (f.name, value)
    | _ => none

end Watchtower
