-- Predicates as chains. A predicate reads as comparisons from left to right, with a connective
-- before each but the first. Its groups lie between the `||`, and its outcome is settled by the
-- first group that does not fail, where a group is settled by its first comparison that does not
-- hold.
import Watchtower.Blueprint.Predicate

namespace Watchtower

open Source (Connective)

/-! ## Chains and their groups -/

/-- Terms from left to right. Each but the first comes with the connective before it. -/
structure Chain (α : Type) where
  first : α
  rest : List (Connective × α)

namespace Chain

variable {α β : Type}

/-- Two chains in a row. -/
def join (connective : Connective) (left right : Chain α) : Chain α :=
  ⟨left.first, left.rest ++ (connective, right.first) :: right.rest⟩

/-- The chain with a function applied to each term. -/
def map (f : α → β) (c : Chain α) : Chain β :=
  ⟨f c.first, c.rest.map fun link => (link.1, f link.2)⟩

/-- The terms from left to right. -/
def terms (c : Chain α) : List α :=
  c.first :: c.rest.map (·.2)

/-- The groups of a chain from a group on that is still open. -/
def groupsFrom (group : List α) : List (Connective × α) → List (List α)
  | [] => [group]
  | (.and, a) :: rest => groupsFrom (group ++ [a]) rest
  | (.or, a) :: rest => group :: groupsFrom [a] rest

/-- The terms of a chain, cut at every `||`. -/
def groups (c : Chain α) : List (List α) :=
  groupsFrom [c.first] c.rest

theorem map_join (f : α → β) (connective : Connective) (left right : Chain α) :
    (join connective left right).map f = join connective (left.map f) (right.map f) := by
  simp [join, map]

theorem terms_map (f : α → β) (c : Chain α) : (c.map f).terms = c.terms.map f := by
  simp [terms, map]

theorem terms_join (connective : Connective) (left right : Chain α) :
    (join connective left right).terms = left.terms ++ right.terms := by
  simp [terms, join]

theorem mem_of_mem_groupsFrom {group g : List α} {rest : List (Connective × α)} {a : α}
    (hg : g ∈ groupsFrom group rest) (ha : a ∈ g) : a ∈ group ∨ a ∈ rest.map (·.2) := by
  induction rest generalizing group with
  | nil =>
    simp only [groupsFrom, List.mem_singleton] at hg
    exact Or.inl (hg ▸ ha)
  | cons link rest ih =>
    obtain ⟨_ | _, b⟩ := link
    · rcases ih hg with h | h
      · rcases List.mem_append.mp h with h | h
        · exact Or.inl h
        · exact Or.inr (by simp_all)
      · exact Or.inr (by simp_all)
    · simp only [groupsFrom, List.mem_cons] at hg
      rcases hg with rfl | hg
      · exact Or.inl ha
      · rcases ih hg with h | h
        · exact Or.inr (by simp_all)
        · exact Or.inr (by simp_all)

/-- A cut loses no term and adds none. -/
theorem mem_terms_of_mem_groups {c : Chain α} {g : List α} {a : α} (hg : g ∈ c.groups)
    (ha : a ∈ g) : a ∈ c.terms := by
  rcases mem_of_mem_groupsFrom hg ha with h | h
  · simp_all [terms]
  · exact List.mem_cons_of_mem _ h

theorem groupsFrom_map (f : α → β) (group : List α) (rest : List (Connective × α)) :
    groupsFrom (group.map f) (rest.map fun link => (link.1, f link.2)) =
      (groupsFrom group rest).map (·.map f) := by
  induction rest generalizing group with
  | nil => rfl
  | cons link rest ih =>
    obtain ⟨_ | _, a⟩ := link
    · have := ih (group ++ [a])
      simpa [groupsFrom] using this
    · have := ih [a]
      simpa [groupsFrom] using this

theorem groups_map (f : α → β) (c : Chain α) : (c.map f).groups = c.groups.map (·.map f) :=
  groupsFrom_map f [c.first] c.rest

end Chain

/-! ## Outcomes -/

/-- The outcome is not just this truth value. -/
def differs (expected : Bool) : Except Fault Bool → Bool
  | .ok b => b != expected
  | .error _ => true

/-- The first outcome that is not the expected one, or else the expected one. -/
def firstOther (expected : Bool) (outcomes : List (Except Fault Bool)) : Except Fault Bool :=
  (outcomes.find? (differs expected)).getD (.ok expected)

/-- What groups of outcomes come to: in a group the first that is not true counts, and of the
groups the first that is not false. -/
def settleGroups (groups : List (List (Except Fault Bool))) : Except Fault Bool :=
  firstOther false (groups.map (firstOther true))

/-- What a chain of outcomes comes to, cut at every `||`. -/
def Chain.settle (c : Chain (Except Fault Bool)) : Except Fault Bool :=
  settleGroups c.groups

theorem firstOther_mem (expected : Bool) (outcomes : List (Except Fault Bool)) :
    firstOther expected outcomes = .ok expected ∨ firstOther expected outcomes ∈ outcomes := by
  unfold firstOther
  rcases h : outcomes.find? (differs expected) with _ | o
  · exact Or.inl rfl
  · exact Or.inr (List.mem_of_find?_eq_some h)

/-- A fault of a chain is the fault of one of its terms. -/
theorem Chain.mem_terms_of_settle_error {c : Chain (Except Fault Bool)} {f : Fault}
    (h : c.settle = .error f) : Except.error f ∈ c.terms := by
  rcases firstOther_mem false (c.groups.map (firstOther true)) with h1 | h1
  · rw [settle, settleGroups, h1] at h
    cases h
  · rw [← settleGroups, ← settle, h, List.mem_map] at h1
    obtain ⟨g, hg, hf⟩ := h1
    rcases firstOther_mem true g with h2 | h2
    · rw [hf] at h2
      cases h2
    · rw [hf] at h2
      exact mem_terms_of_mem_groups hg h2

theorem firstOther_cons_ok (expected : Bool) (rest : List (Except Fault Bool)) :
    firstOther expected (.ok expected :: rest) = firstOther expected rest := by
  simp [firstOther, differs]

theorem firstOther_cons_of_differs {expected : Bool} {o : Except Fault Bool}
    (h : differs expected o = true) (rest : List (Except Fault Bool)) :
    firstOther expected (o :: rest) = o := by
  simp [firstOther, List.find?_cons_of_pos h]

theorem allHold_eq_firstOther {α : Type} (test : α → Except Fault Bool) (group : List α) :
    allHold test group = firstOther true (group.map test) := by
  induction group with
  | nil => rfl
  | cons a rest ih =>
    rw [allHold, List.map_cons]
    rcases test a with f | _ | _
    · exact (firstOther_cons_of_differs rfl _).symm
    · exact (firstOther_cons_of_differs rfl _).symm
    · rw [firstOther_cons_ok]
      exact ih

theorem someHolds_eq_settleGroups {α : Type} (test : α → Except Fault Bool) (gs : List (List α)) :
    someHolds test gs = settleGroups (gs.map (·.map test)) := by
  unfold settleGroups
  induction gs with
  | nil => rfl
  | cons g rest ih =>
    rw [someHolds, allHold_eq_firstOther, List.map_cons, List.map_cons]
    rcases firstOther true (g.map test) with f | _ | _
    · exact (firstOther_cons_of_differs rfl _).symm
    · rw [firstOther_cons_ok]
      exact ih
    · exact (firstOther_cons_of_differs rfl _).symm

/-! ## The chain of a predicate -/

/-- The comparisons of a predicate from left to right. -/
def Predicate.chain : Predicate → Chain Comparison
  | .compare c => ⟨c, []⟩
  | .joined connective left right => .join connective left.chain right.chain

/-- The tokens of the terms behind the first one. -/
def restTokens (rest : List (Connective × Comparison)) : List PredicateToken :=
  rest.flatMap fun link => [.connective link.1, .comparison link.2]

theorem Predicate.tokens_eq_chain (p : Predicate) :
    p.tokens = .comparison p.chain.first :: restTokens p.chain.rest := by
  induction p with
  | compare c => rfl
  | joined connective left right ihl ihr => simp [tokens, chain, Chain.join, restTokens, ihl, ihr]

/-- Cutting from the right, as the tokens are cut, and from the left gives the same groups. -/
theorem groups_restTokens (rest : List (Connective × Comparison)) :
    ∃ g others, PredicateToken.groups (restTokens rest) = g :: others ∧
      ∀ group, Chain.groupsFrom group rest = (group ++ g) :: others := by
  induction rest with
  | nil => exact ⟨[], [], rfl, by simp [Chain.groupsFrom]⟩
  | cons link rest ih =>
    obtain ⟨g, others, hg, hfrom⟩ := ih
    obtain ⟨connective, a⟩ := link
    have htail : PredicateToken.groups (.comparison a :: restTokens rest) = (a :: g) :: others := by
      simp [PredicateToken.groups, hg]
    cases connective with
    | and =>
      refine ⟨a :: g, others, htail, fun group => ?_⟩
      simp [Chain.groupsFrom, hfrom]
    | or =>
      refine ⟨[], (a :: g) :: others, ?_, fun group => ?_⟩
      · simp only [restTokens, List.flatMap_cons, List.cons_append, List.nil_append,
          PredicateToken.groups]
        exact congrArg _ htail
      · simp [Chain.groupsFrom, hfrom]

theorem Predicate.groups_eq_chain (p : Predicate) : p.groups = p.chain.groups := by
  obtain ⟨g, others, hg, hfrom⟩ := groups_restTokens p.chain.rest
  rw [groups, tokens_eq_chain, Chain.groups, hfrom]
  simp [PredicateToken.groups, hg]

/-- A predicate comes to what the outcomes of its comparisons come to. -/
theorem Predicate.evaluate_eq_settle (p : Predicate) (thresholds : Thresholds)
    (previous current : Json) :
    p.evaluate thresholds previous current =
      (p.chain.map (·.test thresholds previous current)).settle := by
  rw [evaluate, someHolds_eq_settleGroups, groups_eq_chain, Chain.settle, Chain.groups_map]

end Watchtower
