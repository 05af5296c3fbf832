-- When the missing parentheses of a predicate matter. Each node of the tree has a meaning of its
-- own, while the text of a predicate has no parentheses. The two agree for all comparisons just
-- where no `or` stands below an `and`; elsewhere the text can hold where the tree does not.
import Watchtower.Proofs.Predicate.Chain

namespace Watchtower

open Source (Connective)

/-! ## Shapes -/

/-- The tree of the connectives of a predicate, without its comparisons. -/
inductive Predicate.Shape where
  | leaf
  | node (connective : Connective) (left right : Predicate.Shape)

namespace Predicate.Shape

/-- A shape occurs in itself, and in a node on one side of which it occurs. -/
inductive Occurs (s : Shape) : Shape → Prop where
  | here : Occurs s s
  | left {connective : Connective} {l r : Shape} (h : Occurs s l) : Occurs s (.node connective l r)
  | right {connective : Connective} {l r : Shape} (h : Occurs s r) : Occurs s (.node connective l r)

/-- Some node of the shape is an `or`. -/
def HasOr (s : Shape) : Prop := ∃ l r, Occurs (.node .or l r) s

/-- Some `or` stands below some `and`. -/
def HasOrBelowAnd (s : Shape) : Prop :=
  ∃ l r, Occurs (.node .and l r) s ∧ (HasOr l ∨ HasOr r)

theorem Occurs.trans {s t u : Shape} (h : Occurs s t) (h' : Occurs t u) : Occurs s u := by
  induction h' with
  | here => exact h
  | left _ ih => exact .left ih
  | right _ ih => exact .right ih

theorem not_hasOr_leaf : ¬ HasOr .leaf := by
  rintro ⟨l, r, h⟩
  cases h

theorem hasOr_or (l r : Shape) : HasOr (.node .or l r) := ⟨l, r, .here⟩

theorem hasOr_and {l r : Shape} : HasOr (.node .and l r) ↔ HasOr l ∨ HasOr r := by
  constructor
  · rintro ⟨l', r', h⟩
    cases h with
    | left h => exact .inl ⟨l', r', h⟩
    | right h => exact .inr ⟨l', r', h⟩
  · rintro (⟨l', r', h⟩ | ⟨l', r', h⟩)
    · exact ⟨l', r', .left h⟩
    · exact ⟨l', r', .right h⟩

theorem not_hasOrBelowAnd_leaf : ¬ HasOrBelowAnd .leaf := by
  rintro ⟨l, r, h, -⟩
  cases h

theorem HasOrBelowAnd.hasOr {s : Shape} (h : HasOrBelowAnd s) : HasOr s := by
  obtain ⟨l, r, hand, hor⟩ := h
  obtain ⟨l', r', hor⟩ := hasOr_and.mpr hor
  exact ⟨l', r', hor.trans hand⟩

theorem hasOrBelowAnd_or {l r : Shape} :
    HasOrBelowAnd (.node .or l r) ↔ HasOrBelowAnd l ∨ HasOrBelowAnd r := by
  constructor
  · rintro ⟨l', r', h, hor⟩
    cases h with
    | left h => exact .inl ⟨l', r', h, hor⟩
    | right h => exact .inr ⟨l', r', h, hor⟩
  · rintro (⟨l', r', h, hor⟩ | ⟨l', r', h, hor⟩)
    · exact ⟨l', r', .left h, hor⟩
    · exact ⟨l', r', .right h, hor⟩

/-- Below an `and` any `or` counts. -/
theorem hasOrBelowAnd_and {l r : Shape} :
    HasOrBelowAnd (.node .and l r) ↔ HasOr l ∨ HasOr r :=
  ⟨fun h => hasOr_and.mp h.hasOr, fun h => ⟨l, r, .here, h⟩⟩

end Predicate.Shape

open Predicate (Shape)

/-- The shape of a predicate. -/
def Predicate.shape : Predicate → Shape
  | .compare _ => .leaf
  | .joined connective left right => .node connective left.shape right.shape

/-! ## The meaning of the tree -/

/-- What a node says: its left side decides where that is enough, and its right side elsewhere. -/
def Source.Connective.combine (connective : Connective) (left right : Except Fault Bool) :
    Except Fault Bool :=
  match connective with
  | .and => do if ← left then right else return false
  | .or => do if ← left then return true else right

/-- What the tree of a predicate says of a change. -/
def Predicate.meaning (p : Predicate) (thresholds : Thresholds) (previous current : Json) :
    Except Fault Bool :=
  match p with
  | .compare c => c.test thresholds previous current
  | .joined connective left right =>
    connective.combine (left.meaning thresholds previous current)
      (right.meaning thresholds previous current)

/-- The truth value with which the right side decides. -/
def Source.Connective.unit : Connective → Bool
  | .and => true
  | .or => false

theorem eq_of_not_differs {expected : Bool} {o : Except Fault Bool}
    (h : differs expected o = false) : o = .ok expected := by
  rcases o with f | b
  · cases h
  · simpa [differs] using h

theorem combine_of_differs {connective : Connective} {left : Except Fault Bool}
    (h : differs connective.unit left = true) (right : Except Fault Bool) :
    connective.combine left right = left := by
  cases connective with
  | and =>
    rcases left with f | _ | _
    · rfl
    · rfl
    · cases h
  | or =>
    rcases left with f | _ | _
    · rfl
    · cases h
    · rfl

theorem combine_unit (connective : Connective) (right : Except Fault Bool) :
    connective.combine (.ok connective.unit) right = right := by
  cases connective <;> rfl

/-- A node comes to the value that leaves all to the right side when both of its sides do. -/
theorem combine_eq_unit {connective : Connective} {left right : Except Fault Bool} :
    connective.combine left right = .ok connective.unit ↔
      left = .ok connective.unit ∧ right = .ok connective.unit := by
  cases h : differs connective.unit left with
  | true =>
    rw [combine_of_differs h]
    have hne : left ≠ .ok connective.unit := by
      rintro rfl
      simp [differs] at h
    simp [hne]
  | false =>
    obtain rfl := eq_of_not_differs h
    simp [combine_unit]

/-- Alike outcomes combine to the same. -/
theorem combine_self (connective : Connective) (b : Bool) :
    connective.combine (.ok b) (.ok b) = .ok b := by
  cases connective <;> cases b <;> rfl

/-! ## Outcomes in a row -/

theorem firstOther_append (connective : Connective) (left right : List (Except Fault Bool)) :
    firstOther connective.unit (left ++ right) =
      connective.combine (firstOther connective.unit left) (firstOther connective.unit right) := by
  induction left with
  | nil => exact (combine_unit connective _).symm
  | cons o rest ih =>
    cases h : differs connective.unit o with
    | true =>
      rw [List.cons_append, firstOther_cons_of_differs h, firstOther_cons_of_differs h,
        combine_of_differs h]
    | false =>
      rw [eq_of_not_differs h, List.cons_append, firstOther_cons_ok, firstOther_cons_ok, ih]

theorem firstOther_true_append (left right : List (Except Fault Bool)) :
    firstOther true (left ++ right) =
      Connective.and.combine (firstOther true left) (firstOther true right) :=
  firstOther_append .and left right

theorem firstOther_singleton (expected : Bool) (o : Except Fault Bool) :
    firstOther expected [o] = o := by
  cases h : differs expected o with
  | true => exact firstOther_cons_of_differs h []
  | false =>
    rw [eq_of_not_differs h, firstOther_cons_ok]
    rfl

/-- Outcomes that are all alike come to the same. -/
theorem firstOther_const {expected b : Bool} {outcomes : List (Except Fault Bool)}
    (hne : outcomes ≠ []) (h : ∀ o ∈ outcomes, o = .ok b) :
    firstOther expected outcomes = .ok b := by
  induction outcomes with
  | nil => exact absurd rfl hne
  | cons o rest ih =>
    obtain ⟨rfl, hrest⟩ := List.forall_mem_cons.mp h
    by_cases hb : b = expected
    · subst hb
      rw [firstOther_cons_ok]
      by_cases hnil : rest = []
      · rw [hnil]
        rfl
      · exact ih hnil hrest
    · exact firstOther_cons_of_differs (by simpa [differs] using hb) rest

theorem settleGroups_append (left right : List (List (Except Fault Bool))) :
    settleGroups (left ++ right) = Connective.or.combine (settleGroups left) (settleGroups right) := by
  rw [settleGroups, List.map_append]
  exact firstOther_append .or _ _

theorem settleGroups_cons (group : List (Except Fault Bool))
    (rest : List (List (Except Fault Bool))) :
    settleGroups (group :: rest) =
      Connective.or.combine (firstOther true group) (settleGroups rest) := by
  rw [← List.singleton_append, settleGroups_append]
  congr 1
  exact firstOther_singleton false _

theorem settleGroups_singleton (group : List (Except Fault Bool)) :
    settleGroups [group] = firstOther true group :=
  firstOther_singleton false _

/-- Groups whose outcomes are all alike come to the same. -/
theorem settleGroups_const {b : Bool} {groups : List (List (Except Fault Bool))}
    (hne : groups ≠ []) (hgroups : ∀ g ∈ groups, g ≠ []) (h : ∀ g ∈ groups, ∀ o ∈ g, o = .ok b) :
    settleGroups groups = .ok b := by
  refine firstOther_const (by simpa using hne) ?_
  intro o ho
  obtain ⟨g, hg, rfl⟩ := List.mem_map.mp ho
  exact firstOther_const (hgroups g hg) (h g hg)

/-! ## Groups of joined predicates -/

namespace Chain

variable {α : Type}

/-- What stands in front of an open group stays in front of the first group. -/
theorem groupsFrom_prepend (front group : List α) (rest : List (Connective × α)) :
    ∃ first after, groupsFrom group rest = first :: after ∧
      groupsFrom (front ++ group) rest = (front ++ first) :: after := by
  induction rest generalizing group with
  | nil => exact ⟨group, [], rfl, rfl⟩
  | cons link rest ih =>
    obtain ⟨_ | _, a⟩ := link
    · obtain ⟨first, after, hgroup, hfront⟩ := ih (group ++ [a])
      exact ⟨first, after, hgroup, by rw [groupsFrom, List.append_assoc, hfront]⟩
    · exact ⟨group, groupsFrom [a] rest, rfl, rfl⟩

theorem groups_join_or (left right : Chain α) :
    (join .or left right).groups = left.groups ++ right.groups := by
  obtain ⟨first, rest⟩ := left
  unfold groups join
  generalize [first] = group
  induction rest generalizing group with
  | nil => rfl
  | cons link rest ih =>
    obtain ⟨_ | _, a⟩ := link
    · exact ih (group ++ [a])
    · exact congrArg (group :: ·) (ih [a])

/-- An `and` puts the last group of its left side and the first of its right side together. -/
theorem groups_join_and (left right : Chain α) : ∃ before last first after,
    left.groups = before ++ [last] ∧ right.groups = first :: after ∧
      (join .and left right).groups = before ++ (last ++ first) :: after := by
  obtain ⟨head, rest⟩ := left
  unfold groups join
  generalize [head] = group
  induction rest generalizing group with
  | nil =>
    obtain ⟨first, after, hright, hfront⟩ := groupsFrom_prepend group [right.first] right.rest
    exact ⟨[], group, first, after, rfl, hright, hfront⟩
  | cons link rest ih =>
    obtain ⟨_ | _, a⟩ := link
    · exact ih (group ++ [a])
    · obtain ⟨before, last, first, after, hleft, hright, hjoin⟩ := ih [a]
      exact ⟨group :: before, last, first, after, congrArg (group :: ·) hleft, hright,
        congrArg (group :: ·) hjoin⟩

end Chain

namespace Predicate

theorem groups_or (l r : Predicate) : (joined .or l r).groups = l.groups ++ r.groups := by
  simp only [groups_eq_chain, chain, Chain.groups_join_or]

theorem groups_and (l r : Predicate) : ∃ before last first after,
    l.groups = before ++ [last] ∧ r.groups = first :: after ∧
      (joined .and l r).groups = before ++ (last ++ first) :: after := by
  simp only [groups_eq_chain, chain]
  exact Chain.groups_join_and l.chain r.chain

theorem groups_ne_nil (p : Predicate) : p.groups ≠ [] := by
  cases p with
  | compare c => simp [groups_eq_chain, chain, Chain.groups, Chain.groupsFrom]
  | joined connective l r =>
    cases connective with
    | and =>
      obtain ⟨before, last, first, after, -, -, hjoin⟩ := groups_and l r
      simp [hjoin]
    | or =>
      obtain ⟨before, last, first, after, hleft, -, -⟩ := groups_and l r
      simp [groups_or, hleft]

theorem ne_nil_of_mem_groups {p : Predicate} : ∀ g ∈ p.groups, g ≠ [] := by
  induction p with
  | compare c => simp [groups_eq_chain, chain, Chain.groups, Chain.groupsFrom]
  | joined connective l r ihl ihr =>
    cases connective with
    | and =>
      obtain ⟨before, last, first, after, hleft, hright, hjoin⟩ := groups_and l r
      rw [hleft] at ihl
      rw [hright] at ihr
      rw [hjoin]
      intro g hg
      rcases List.mem_append.mp hg with hbefore | hrest
      · exact ihl g (List.mem_append_left _ hbefore)
      · rcases List.mem_cons.mp hrest with rfl | hafter
        · have hlast := ihl last (by simp)
          simp [hlast]
        · exact ihr g (List.mem_cons_of_mem _ hafter)
    | or =>
      rw [groups_or]
      intro g hg
      rcases List.mem_append.mp hg with hleft | hright
      · exact ihl g hleft
      · exact ihr g hright

/-- There is more than one group just where there is an `or`. -/
theorem one_lt_length_groups {p : Predicate} : 1 < p.groups.length ↔ p.shape.HasOr := by
  induction p with
  | compare c =>
    simp [groups_eq_chain, chain, Chain.groups, Chain.groupsFrom, shape, Shape.not_hasOr_leaf]
  | joined connective l r ihl ihr =>
    have hl := List.length_pos_iff.mpr l.groups_ne_nil
    have hr := List.length_pos_iff.mpr r.groups_ne_nil
    cases connective with
    | and =>
      obtain ⟨before, last, first, after, hleft, hright, hjoin⟩ := groups_and l r
      rw [shape, Shape.hasOr_and, ← ihl, ← ihr, hleft, hright, hjoin]
      simp only [List.length_append, List.length_cons, List.length_nil]
      omega
    | or =>
      refine iff_of_true ?_ (Shape.hasOr_or l.shape r.shape)
      rw [groups_or, List.length_append]
      omega

/-! ## Where the text says what the tree means -/

section Evaluation

variable (thresholds : Thresholds) (previous current : Json)

/-- The outcomes of the comparisons of a predicate, group by group. -/
def outcomes (p : Predicate) : List (List (Except Fault Bool)) :=
  p.groups.map (·.map (·.test thresholds previous current))

theorem evaluate_eq_settleGroups (p : Predicate) :
    p.evaluate thresholds previous current =
      settleGroups (p.outcomes thresholds previous current) :=
  someHolds_eq_settleGroups _ _

/-- The text of an `or` says what its node means. -/
theorem evaluate_or (l r : Predicate) :
    (joined .or l r).evaluate thresholds previous current =
      Connective.or.combine (l.evaluate thresholds previous current)
        (r.evaluate thresholds previous current) := by
  simp only [evaluate_eq_settleGroups, outcomes, groups_or, List.map_append, settleGroups_append]

theorem group_of_not_hasOr {p : Predicate} (h : ¬ p.shape.HasOr) : ∃ group, p.groups = [group] := by
  rw [← one_lt_length_groups] at h
  have hpos := List.length_pos_iff.mpr p.groups_ne_nil
  exact List.length_eq_one_iff.mp (by omega)

/-- So does the text of an `and`, when there is no `or` below it. -/
theorem evaluate_and {l r : Predicate} (hl : ¬ l.shape.HasOr) (hr : ¬ r.shape.HasOr) :
    (joined .and l r).evaluate thresholds previous current =
      Connective.and.combine (l.evaluate thresholds previous current)
        (r.evaluate thresholds previous current) := by
  obtain ⟨lgroup, hlgroup⟩ := group_of_not_hasOr hl
  obtain ⟨rgroup, hrgroup⟩ := group_of_not_hasOr hr
  obtain ⟨before, last, first, after, hleft, hright, hjoin⟩ := groups_and l r
  have hsingle : before ++ [last] = [] ++ [lgroup] := hleft.symm.trans hlgroup
  obtain ⟨rfl, hlast⟩ := List.append_inj' hsingle rfl
  cases hlast
  obtain ⟨rfl, rfl⟩ := List.cons_eq_cons.mp (hright.symm.trans hrgroup)
  simp only [evaluate_eq_settleGroups, outcomes, hjoin, hlgroup, hrgroup, List.nil_append,
    List.map_cons, List.map_nil, settleGroups_singleton, List.map_append, firstOther_true_append]

/-- Where no `or` stands below an `and`, the text of a predicate says what its tree means. -/
theorem evaluate_eq_meaning {p : Predicate} (h : ¬ p.shape.HasOrBelowAnd) :
    p.evaluate thresholds previous current = p.meaning thresholds previous current := by
  induction p with
  | compare c =>
    simp only [evaluate_eq_settleGroups, outcomes, groups_eq_chain, chain, Chain.groups,
      Chain.groupsFrom, List.map_cons, List.map_nil, settleGroups_singleton, firstOther_singleton,
      meaning]
  | joined connective l r ihl ihr =>
    rw [shape] at h
    cases connective with
    | and =>
      rw [Shape.hasOrBelowAnd_and, not_or] at h
      obtain ⟨hl, hr⟩ := h
      rw [evaluate_and thresholds previous current hl hr, meaning, ihl fun hdeep => hl hdeep.hasOr,
        ihr fun hdeep => hr hdeep.hasOr]
    | or =>
      rw [Shape.hasOrBelowAnd_or, not_or] at h
      rw [evaluate_or, meaning, ihl h.1, ihr h.2]

end Evaluation

end Predicate

/-! ## Where it does not -/

/-- A comparison that holds of a change to one, or does not, as is wanted. -/
def Comparison.fixed (holds : Bool) : Comparison :=
  ⟨if holds then .above else .below, "zero", false⟩

/-- Its only threshold. -/
def zeroThreshold : Thresholds := [("zero", .zero)]

theorem test_fixed (holds : Bool) :
    (Comparison.fixed holds).test zeroThreshold (.ofInt 0) (.ofInt 1) = .ok holds := by
  cases holds <;> rfl

/-- The predicate of a shape with one comparison at all leaves. -/
def Predicate.Shape.fill (c : Comparison) : Shape → Predicate
  | .leaf => .compare c
  | .node connective left right => .joined connective (left.fill c) (right.fill c)

theorem shape_fill (c : Comparison) (s : Shape) : (s.fill c).shape = s := by
  induction s with
  | leaf => rfl
  | node connective l r ihl ihr => rw [Shape.fill, Predicate.shape, ihl, ihr]

theorem mem_groups_fill {c d : Comparison} {s : Shape} {g : List Comparison}
    (hg : g ∈ (s.fill c).groups) (hd : d ∈ g) : d = c := by
  rw [Predicate.groups_eq_chain] at hg
  have hterm := Chain.mem_terms_of_mem_groups hg hd
  clear hg hd
  induction s with
  | leaf => simpa [Shape.fill, Predicate.chain, Chain.terms] using hterm
  | node connective l r ihl ihr =>
    rw [Shape.fill, Predicate.chain, Chain.terms_join, List.mem_append] at hterm
    rcases hterm with hleft | hright
    · exact ihl hleft
    · exact ihr hright

/-- Groups of the one comparison come to what it does. -/
theorem settle_fixed {holds : Bool} {groups : List (List Comparison)} (hne : groups ≠ [])
    (hgroups : ∀ g ∈ groups, g ≠ []) (h : ∀ g ∈ groups, ∀ c ∈ g, c = .fixed holds) :
    settleGroups (groups.map (·.map (·.test zeroThreshold (.ofInt 0) (.ofInt 1)))) = .ok holds := by
  apply settleGroups_const (by simpa using hne)
  · intro g hg
    obtain ⟨group, hgroup, rfl⟩ := List.mem_map.mp hg
    simpa using hgroups group hgroup
  · intro g hg o ho
    obtain ⟨group, hgroup, rfl⟩ := List.mem_map.mp hg
    obtain ⟨c, hc, rfl⟩ := List.mem_map.mp ho
    rw [h group hgroup c hc, test_fixed]

theorem evaluate_fill (s : Shape) (holds : Bool) :
    (s.fill (.fixed holds)).evaluate zeroThreshold (.ofInt 0) (.ofInt 1) = .ok holds := by
  rw [Predicate.evaluate_eq_settleGroups]
  exact settle_fixed (Predicate.groups_ne_nil _) Predicate.ne_nil_of_mem_groups
    fun g hg c hc => mem_groups_fill hg hc

theorem meaning_fill (s : Shape) (holds : Bool) :
    (s.fill (.fixed holds)).meaning zeroThreshold (.ofInt 0) (.ofInt 1) = .ok holds := by
  induction s with
  | leaf => exact test_fixed holds
  | node connective l r ihl ihr => rw [Shape.fill, Predicate.meaning, ihl, ihr, combine_self]

/-- An `or` on the left of an `and` parts off a group that the right side has no share in. -/
theorem evaluate_of_left_or {l : Shape} (h : l.HasOr) (r : Shape) :
    (Predicate.joined .and (l.fill (.fixed true)) (r.fill (.fixed false))).evaluate
      zeroThreshold (.ofInt 0) (.ofInt 1) = .ok true := by
  obtain ⟨before, last, first, after, hleft, -, hjoin⟩ :=
    Predicate.groups_and (l.fill (.fixed true)) (r.fill (.fixed false))
  have hmany := Predicate.one_lt_length_groups.mpr ((shape_fill (.fixed true) l).symm ▸ h)
  have hbefore : before ≠ [] := by
    rintro rfl
    simp [hleft] at hmany
  have hsub : ∀ g ∈ before, g ∈ (l.fill (.fixed true)).groups := by
    rw [hleft]
    exact fun g hg => List.mem_append_left _ hg
  have hsettle := settle_fixed hbefore (fun g hg => Predicate.ne_nil_of_mem_groups g (hsub g hg))
    fun g hg c hc => mem_groups_fill (hsub g hg) hc
  rw [Predicate.evaluate_eq_settleGroups, Predicate.outcomes, hjoin, List.map_append,
    settleGroups_append, hsettle]
  rfl

/-- An `or` on the right of an `and` parts off a group that the left side has no share in. -/
theorem evaluate_of_right_or (l : Shape) {r : Shape} (h : r.HasOr) :
    (Predicate.joined .and (l.fill (.fixed false)) (r.fill (.fixed true))).evaluate
      zeroThreshold (.ofInt 0) (.ofInt 1) = .ok true := by
  obtain ⟨before, last, first, after, hleft, hright, hjoin⟩ :=
    Predicate.groups_and (l.fill (.fixed false)) (r.fill (.fixed true))
  have hmany := Predicate.one_lt_length_groups.mpr ((shape_fill (.fixed true) r).symm ▸ h)
  have hafter : after ≠ [] := by
    rintro rfl
    simp [hright] at hmany
  have hsub : ∀ g ∈ after, g ∈ (r.fill (.fixed true)).groups := by
    rw [hright]
    exact fun g hg => List.mem_cons_of_mem _ hg
  have hrest := settle_fixed hafter (fun g hg => Predicate.ne_nil_of_mem_groups g (hsub g hg))
    fun g hg c hc => mem_groups_fill (hsub g hg) hc
  -- The group of both sides fails with the left side, as do the groups before it.
  have hleftside := evaluate_fill l false
  rw [Predicate.evaluate_eq_settleGroups, Predicate.outcomes, hleft, List.map_append,
    settleGroups_append, List.map_singleton, settleGroups_singleton] at hleftside
  obtain ⟨hbefore, hlast⟩ := combine_eq_unit.mp hleftside
  rw [Predicate.evaluate_eq_settleGroups, Predicate.outcomes, hjoin, List.map_append,
    settleGroups_append, hbefore, combine_unit, List.map_cons, settleGroups_cons, hrest,
    List.map_append, firstOther_true_append, hlast]
  rfl

/-- With an `or` below an `and`, comparisons can be chosen so that the text holds and the tree
does not. -/
theorem exists_text_unlike_tree {s : Shape} (h : s.HasOrBelowAnd) :
    ∃ p : Predicate, p.shape = s ∧
      p.evaluate zeroThreshold (.ofInt 0) (.ofInt 1) = .ok true ∧
      p.meaning zeroThreshold (.ofInt 0) (.ofInt 1) = .ok false := by
  induction s with
  | leaf => exact absurd h Shape.not_hasOrBelowAnd_leaf
  | node connective l r ihl ihr =>
    cases connective with
    | or =>
      rcases Shape.hasOrBelowAnd_or.mp h with hl | hr
      · obtain ⟨p, hshape, htext, htree⟩ := ihl hl
        refine ⟨.joined .or p (r.fill (.fixed false)), ?_, ?_, ?_⟩
        · rw [Predicate.shape, hshape, shape_fill]
        · rw [Predicate.evaluate_or, htext]
          rfl
        · rw [Predicate.meaning, htree, meaning_fill]
          rfl
      · obtain ⟨p, hshape, htext, htree⟩ := ihr hr
        refine ⟨.joined .or (l.fill (.fixed false)) p, ?_, ?_, ?_⟩
        · rw [Predicate.shape, hshape, shape_fill]
        · rw [Predicate.evaluate_or, evaluate_fill, htext]
          rfl
        · rw [Predicate.meaning, htree, meaning_fill]
          rfl
    | and =>
      rcases Shape.hasOrBelowAnd_and.mp h with hl | hr
      · refine ⟨_, ?_, evaluate_of_left_or hl r, ?_⟩
        · rw [Predicate.shape, shape_fill, shape_fill]
        · rw [Predicate.meaning, meaning_fill, meaning_fill]
          rfl
      · refine ⟨_, ?_, evaluate_of_right_or l hr, ?_⟩
        · rw [Predicate.shape, shape_fill, shape_fill]
        · rw [Predicate.meaning, meaning_fill, meaning_fill]
          rfl

/-! ## The law -/

/-- The predicates of a shape decide every change as their trees mean it, whatever their
comparisons and thresholds, just when no `or` stands below an `and` in the shape. -/
theorem texts_say_what_trees_mean_unless_an_or_is_below_an_and (s : Shape) :
    (∀ p : Predicate, p.shape = s → ∀ thresholds previous current,
      p.evaluate thresholds previous current = p.meaning thresholds previous current) ↔
      ¬ s.HasOrBelowAnd := by
  constructor
  · intro hagree hdeep
    obtain ⟨p, hshape, htext, htree⟩ := exists_text_unlike_tree hdeep
    have hsame := hagree p hshape zeroThreshold (.ofInt 0) (.ofInt 1)
    rw [htext, htree] at hsame
    cases hsame
  · rintro hflat p rfl thresholds previous current
    exact Predicate.evaluate_eq_meaning thresholds previous current hflat

end Watchtower
