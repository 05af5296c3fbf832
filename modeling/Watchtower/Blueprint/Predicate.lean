-- Predicates over changes: comparisons with named thresholds, joined by `&&` and `||`. The
-- text of a predicate has no parentheses, so `&&` binds more tightly than `||` whatever the
-- shape of the tree, and the evaluation follows the text.
import Watchtower.Reading
import Watchtower.Source.Specifier

namespace Watchtower

open Source (Relation Connective)

/-- A comparison with a named threshold: of the current value, or of the change in percent of
the previous value. -/
structure Comparison where
  relation : Relation
  threshold : String
  percentage : Bool
deriving DecidableEq, Repr

/-- A predicate. -/
inductive Predicate where
  | compare (comparison : Comparison)
  | joined (connective : Connective) (left right : Predicate)
deriving DecidableEq, Repr

/-- The thresholds by name. -/
abbrev Thresholds := List (String × Decimal)

/-! ## Text -/

/-- The text of a comparison over the event that `event` names. -/
def Comparison.render (c : Comparison) (event : String) : String :=
  if c.percentage then
    "change_delta(&" ++ event ++ ".previous, &" ++ event ++ ".current)? " ++ c.relation.symbol
      ++ " percentage_of(&" ++ event ++ ".previous, self." ++ c.threshold ++ ")?"
  else
    "numeric(&" ++ event ++ ".current)? " ++ c.relation.symbol ++ " self." ++ c.threshold

/-- The text of a predicate over the event that `event` names. -/
def Predicate.render (event : String) : Predicate → String
  | .compare c => c.render event
  | .joined connective left right =>
    left.render event ++ " " ++ connective.symbol ++ " " ++ right.render event

/-! ## Groups -/

/-- What a predicate reads as from left to right. -/
inductive PredicateToken where
  | comparison (c : Comparison)
  | connective (c : Connective)
deriving DecidableEq, Repr

/-- The tokens of a predicate, from left to right. -/
def Predicate.tokens : Predicate → List PredicateToken
  | .compare c => [.comparison c]
  | .joined connective left right => left.tokens ++ .connective connective :: right.tokens

/-- Cuts tokens at every `||` into groups of comparisons. -/
def PredicateToken.groups : List PredicateToken → List (List Comparison)
  | [] => [[]]
  | .connective .and :: rest => groups rest
  | .connective .or :: rest => [] :: groups rest
  | .comparison c :: rest =>
    match groups rest with
    | [] => [[c]]
    | group :: others => (c :: group) :: others

/-- The groups of comparisons of which one has to hold as a whole. -/
def Predicate.groups (p : Predicate) : List (List Comparison) :=
  PredicateToken.groups p.tokens

/-- The names of the thresholds, from left to right. -/
def Predicate.thresholds (p : Predicate) : List String :=
  p.tokens.filterMap fun
    | .comparison c => some c.threshold
    | .connective _ => none

/-! ## Evaluation -/

/-- The relation holds between two decimals. -/
def Source.Relation.holds (r : Relation) (left right : Decimal) : Bool :=
  match r with
  | .above => left.compare right == .gt
  | .below => left.compare right == .lt
  | .equal => left.compare right == .eq

/-- Compares a change with a threshold value. -/
def Source.Relation.test (r : Relation) (percentage : Bool) (threshold : Decimal)
    (previous current : Json) : Except Fault Bool := do
  if percentage then
    let delta ← Reading.changeDelta previous current
    let part ← Reading.percentageOf previous threshold
    return r.holds delta part
  else
    return r.holds (← Reading.numeric current) threshold

/-- Compares a change with the threshold that a comparison names. -/
def Comparison.test (c : Comparison) (thresholds : Thresholds) (previous current : Json) :
    Except Fault Bool :=
  match thresholds.lookup c.threshold with
  | none => .error (.unknownMember "threshold" c.threshold)
  | some threshold => c.relation.test c.percentage threshold previous current

/-- All tests of a group hold. The first that does not ends the group. -/
def allHold (test : α → Except Fault Bool) : List α → Except Fault Bool
  | [] => .ok true
  | a :: rest => do if ← test a then allHold test rest else return false

/-- The tests of some group all hold. The first such group ends the search. -/
def someHolds (test : α → Except Fault Bool) : List (List α) → Except Fault Bool
  | [] => .ok false
  | group :: rest => do if ← allHold test group then return true else someHolds test rest

/-- A predicate holds of a change. -/
def Predicate.evaluate (p : Predicate) (thresholds : Thresholds) (previous current : Json) :
    Except Fault Bool :=
  someHolds (fun c : Comparison => c.test thresholds previous current) p.groups

end Watchtower
