-- Specifiers and the predicates they are lowered to. A specifier means what its leaves say from
-- left to right, each against the decimal of its own literal, and the lowered predicate with its
-- numbered thresholds decides every change in the same way.
import Watchtower.Blueprint.Thresholds
import Watchtower.Proofs.Outcome
import Watchtower.Proofs.Predicate.Chain
import Watchtower.Proofs.Tables

namespace Watchtower

open Source (Specifier Relation Connective)

/-! ## The meaning of a specifier -/

/-- The decimal that a literal writes: a number, or a text that is one. -/
def Source.Expr.decimal? : Source.Expr → Option Decimal
  | .literal (.number text) => Decimal.ofText? (Text.trim text)
  | .literal (.string text) => Decimal.ofText? (Text.trim text)
  | _ => none

/-- A leaf of a specifier, with the decimal of its literal. -/
structure Clause where
  relation : Relation
  percentage : Bool
  bound : Decimal

/-- Compares a change with the bound of a clause. -/
def Clause.test (previous current : Json) (c : Clause) : Except Fault Bool :=
  c.relation.test c.percentage c.bound previous current

/-- The leaves of a specifier from left to right, if every literal writes a decimal. -/
def Source.Specifier.clauses? : Specifier → Option (Chain Clause)
  | .leaf relation value percentage => do
    let bound ← value.decimal?
    return ⟨⟨relation, percentage, bound⟩, []⟩
  | .node connective left right => do
    let left ← left.clauses?
    let right ← right.clauses?
    return .join connective left right

/-- What the leaves of a specifier say of a change. -/
def Chain.decide (clauses : Chain Clause) (previous current : Json) : Except Fault Bool :=
  (clauses.map (Clause.test previous current)).settle

/-! ## Names of thresholds -/

theorem NameSupply.numbered_inj {base : String} {m n : Nat} (h : numbered base m = numbered base n) :
    m = n := by
  have hdigits : (Nat.repr m).toList = (Nat.repr n).toList :=
    congrArg String.toList ((String.append_right_inj _).mp h)
  simp only [Nat.toList_repr] at hdigits
  have := congrArg (Nat.ofDigitChars 10 · 0) hdigits
  simpa using this

theorem NameSupply.numbered_nodup (base : String) (start count : Nat) :
    ((List.range' start count).map (numbered base)).Nodup :=
  List.Pairwise.map _ (fun _ _ hne h => hne (numbered_inj h)) List.nodup_range'

/-- A threshold expression that is accepted is a literal that writes just this decimal. -/
theorem thresholdValue_eq_ok {value : Source.Expr} {d : Decimal} :
    thresholdValue value = .ok d ↔ value.decimal? = some d := by
  rcases value with (text | text | _ | _) | _ | _ | _
  · cases h : Decimal.ofText? (Text.trim text) <;> simp [thresholdValue, Source.Expr.decimal?, h]
  · cases h : Decimal.ofText? (Text.trim text) <;> simp [thresholdValue, Source.Expr.decimal?, h]
  all_goals simp [thresholdValue, Source.Expr.decimal?]

theorem ofSpecifier_leaf {names names' : NameSupply} {relation : Relation} {value : Source.Expr}
    {percentage : Bool} {compiled : CompiledSpecifier}
    (h : CompiledSpecifier.ofSpecifier names (.leaf relation value percentage) =
      .ok (compiled, names')) :
    ∃ d, value.decimal? = some d ∧ names' = (names.fresh "threshold").2 ∧
      compiled = ⟨[((names.fresh "threshold").1, d)],
        .compare ⟨relation, (names.fresh "threshold").1, percentage⟩⟩ := by
  rw [CompiledSpecifier.ofSpecifier, bind_eq_ok] at h
  obtain ⟨d, hd, h⟩ := h
  cases h
  exact ⟨d, thresholdValue_eq_ok.mp hd, rfl, rfl⟩

theorem ofSpecifier_node {names names' : NameSupply} {connective : Connective}
    {left right : Specifier} {compiled : CompiledSpecifier}
    (h : CompiledSpecifier.ofSpecifier names (.node connective left right) =
      .ok (compiled, names')) :
    ∃ l between r, CompiledSpecifier.ofSpecifier names left = .ok (l, between) ∧
      CompiledSpecifier.ofSpecifier between right = .ok (r, names') ∧
      compiled = ⟨l.thresholds ++ r.thresholds, .joined connective l.predicate r.predicate⟩ := by
  rw [CompiledSpecifier.ofSpecifier, bind_eq_ok] at h
  obtain ⟨⟨l, between⟩, hl, h⟩ := h
  rw [bind_eq_ok] at h
  obtain ⟨⟨r, names''⟩, hr, h⟩ := h
  cases h
  exact ⟨l, between, r, hl, hr, rfl⟩

/-- The thresholds of a specifier get the next numbers, from left to right. -/
theorem ofSpecifier_names {names names' : NameSupply} {node : Specifier}
    {compiled : CompiledSpecifier}
    (h : CompiledSpecifier.ofSpecifier names node = .ok (compiled, names')) :
    compiled.thresholds.map (·.1) =
        (List.range' (names.issued "threshold") compiled.thresholds.length).map
          (NameSupply.numbered "threshold") ∧
      names'.issued "threshold" = names.issued "threshold" + compiled.thresholds.length := by
  induction node generalizing names names' compiled with
  | leaf relation value percentage =>
    obtain ⟨d, _, rfl, rfl⟩ := ofSpecifier_leaf h
    simp [NameSupply.fresh]
  | node connective left right ihl ihr =>
    obtain ⟨l, between, r, hl, hr, rfl⟩ := ofSpecifier_node h
    obtain ⟨hlnames, hlissued⟩ := ihl hl
    obtain ⟨hrnames, hrissued⟩ := ihr hr
    refine ⟨?_, ?_⟩
    · rw [List.map_append, hlnames, hrnames, hlissued, List.length_append, ← List.range'_append_1,
        List.map_append]
    · rw [hrissued, hlissued, List.length_append]
      omega

theorem ofSpecifier_names_nodup {names names' : NameSupply} {node : Specifier}
    {compiled : CompiledSpecifier}
    (h : CompiledSpecifier.ofSpecifier names node = .ok (compiled, names')) :
    (compiled.thresholds.map (·.1)).Nodup := by
  rw [(ofSpecifier_names h).1]
  exact NameSupply.numbered_nodup _ _ _

/-- The fields of the thresholds hold just the thresholds. -/
@[simp] theorem thresholdsOf_fields (compiled : CompiledSpecifier) :
    thresholdsOf compiled.fields = compiled.thresholds := by
  simp only [thresholdsOf, CompiledSpecifier.fields, List.filterMap_map]
  exact List.filterMap_some

/-! ## Lowering keeps the meaning -/

/-- Among thresholds in which it finds its own, a lowered specifier tests clause for clause what
its source says. -/
theorem ofSpecifier_chain {names names' : NameSupply} {node : Specifier}
    {compiled : CompiledSpecifier} {thresholds : Thresholds}
    (h : CompiledSpecifier.ofSpecifier names node = .ok (compiled, names'))
    (hfound : ∀ entry ∈ compiled.thresholds, thresholds.lookup entry.1 = some entry.2) :
    ∃ clauses, node.clauses? = some clauses ∧ ∀ previous current,
      compiled.predicate.chain.map (·.test thresholds previous current) =
        clauses.map (Clause.test previous current) := by
  induction node generalizing names names' compiled with
  | leaf relation value percentage =>
    obtain ⟨d, hd, rfl, rfl⟩ := ofSpecifier_leaf h
    refine ⟨⟨⟨relation, percentage, d⟩, []⟩, by simp [Specifier.clauses?, hd], ?_⟩
    intro previous current
    have := hfound _ (List.mem_singleton_self _)
    simp only at this
    simp [Predicate.chain, Chain.map, Comparison.test, Clause.test, this]
  | node connective left right ihl ihr =>
    obtain ⟨l, between, r, hl, hr, rfl⟩ := ofSpecifier_node h
    obtain ⟨lclauses, hlclauses, hltest⟩ :=
      ihl hl fun entry he => hfound entry (List.mem_append_left _ he)
    obtain ⟨rclauses, hrclauses, hrtest⟩ :=
      ihr hr fun entry he => hfound entry (List.mem_append_right _ he)
    refine ⟨.join connective lclauses rclauses, by simp [Specifier.clauses?, *], ?_⟩
    intro previous current
    rw [Predicate.chain, Chain.map_join, Chain.map_join, hltest, hrtest]

/-! ## Faults of clauses -/

/-- The fault arises from the values of a change: one is no number, or there is no room for a
result. -/
def Fault.OfReading (f : Fault) : Prop :=
  (∃ text, f = .notNumeric text) ∨ ∃ operation, f = .overflow operation

theorem numeric_error {value : Json} {f : Fault} (h : Reading.numeric value = .error f) :
    f.OfReading := by
  left
  cases value with
  | num n =>
    simp only [Reading.numeric, Reading.ofText] at h
    split at h <;> cases h
    exact ⟨_, rfl⟩
  | str s =>
    simp only [Reading.numeric, Reading.ofText] at h
    split at h <;> cases h
    exact ⟨_, rfl⟩
  | _ =>
    cases h
    exact ⟨_, rfl⟩

theorem changeDelta_error {previous current : Json} {f : Fault}
    (h : Reading.changeDelta previous current = .error f) : f.OfReading := by
  rw [Reading.changeDelta, bind_eq_error] at h
  rcases h with h | ⟨p, _, h⟩
  · exact numeric_error h
  rw [bind_eq_error] at h
  rcases h with h | ⟨c, _, h⟩
  · exact numeric_error h
  split at h <;> cases h
  exact Or.inr ⟨_, rfl⟩

theorem percentageOf_error {base : Json} {percent : Decimal} {f : Fault}
    (h : Reading.percentageOf base percent = .error f) : f.OfReading := by
  rw [Reading.percentageOf, bind_eq_error] at h
  rcases h with h | ⟨b, _, h⟩
  · exact numeric_error h
  split at h <;> cases h
  exact Or.inr ⟨_, rfl⟩

theorem Clause.test_error {c : Clause} {previous current : Json} {f : Fault}
    (h : c.test previous current = .error f) : f.OfReading := by
  unfold test Relation.test at h
  split at h
  · rw [bind_eq_error] at h
    rcases h with h | ⟨delta, _, h⟩
    · exact changeDelta_error h
    rw [bind_eq_error] at h
    rcases h with h | ⟨part, _, h⟩
    · exact percentageOf_error h
    cases h
  · rw [bind_eq_error] at h
    rcases h with h | ⟨value, _, h⟩
    · exact numeric_error h
    cases h

theorem Chain.decide_error {clauses : Chain Clause} {previous current : Json} {f : Fault}
    (h : clauses.decide previous current = .error f) : f.OfReading := by
  have hmem := mem_terms_of_settle_error h
  rw [terms_map, List.mem_map] at hmem
  obtain ⟨c, _, hc⟩ := hmem
  exact c.test_error hc

/-! ## The law -/

/-- Every leaf of a lowered specifier has a decimal, and its predicate finds all its thresholds. -/
theorem ofSpecifier_decides {names names' : NameSupply} {node : Specifier}
    {compiled : CompiledSpecifier}
    (h : CompiledSpecifier.ofSpecifier names node = .ok (compiled, names')) :
    ∃ clauses, node.clauses? = some clauses ∧ ∀ previous current,
      compiled.predicate.evaluate (thresholdsOf compiled.fields) previous current =
        clauses.decide previous current := by
  have hfound : ∀ entry ∈ compiled.thresholds,
      compiled.thresholds.lookup entry.1 = some entry.2 :=
    fun entry he => lookup_of_mem (ofSpecifier_names_nodup h) he
  obtain ⟨clauses, hclauses, htest⟩ := ofSpecifier_chain h hfound
  refine ⟨clauses, hclauses, fun previous current => ?_⟩
  rw [thresholdsOf_fields, Predicate.evaluate_eq_settle, htest, Chain.decide]

/-- A specifier that was lowered decides every change as the leaves of its source do, taken from
left to right, cut at every `or`, each against the decimal of its own literal. No threshold is
ever missing. -/
theorem lowered_specifier_decides_as_its_leaves (names names' : NameSupply) (node : Specifier)
    (compiled : CompiledSpecifier)
    (h : CompiledSpecifier.ofSpecifier names node = .ok (compiled, names')) :
    ∃ clauses, node.clauses? = some clauses ∧ ∀ previous current,
      compiled.predicate.evaluate (thresholdsOf compiled.fields) previous current =
          clauses.decide previous current ∧
        ∀ name, compiled.predicate.evaluate (thresholdsOf compiled.fields) previous current ≠
          .error (.unknownMember "threshold" name) := by
  obtain ⟨clauses, hclauses, hdecides⟩ := ofSpecifier_decides h
  refine ⟨clauses, hclauses, fun previous current => ⟨hdecides previous current, ?_⟩⟩
  intro name hname
  rw [hdecides] at hname
  rcases Chain.decide_error hname with ⟨text, hf⟩ | ⟨operation, hf⟩
  · cases hf
  · cases hf

/-- A specifier with an `or` below an `and`, a percentage, and a bound that is written as a text. -/
def nestedSpecifier : Specifier :=
  .node .and (.leaf .above (.literal (.number "100")) false)
    (.node .or (.leaf .below (.literal (.string " 0.5 ")) true)
      (.leaf .equal (.literal (.number "7e0")) false))

theorem nested_specifier_decides_as_its_leaves :
    ∃ compiled names', CompiledSpecifier.ofSpecifier {} nestedSpecifier = .ok (compiled, names') ∧
      ∃ clauses, nestedSpecifier.clauses? = some clauses ∧ ∀ previous current,
        compiled.predicate.evaluate (thresholdsOf compiled.fields) previous current =
            clauses.decide previous current ∧
          ∀ name, compiled.predicate.evaluate (thresholdsOf compiled.fields) previous current ≠
            .error (.unknownMember "threshold" name) :=
  ⟨_, _, rfl, lowered_specifier_decides_as_its_leaves _ _ _ _ rfl⟩

end Watchtower
