-- How emitters are read. A chain of features, a text with dots, and a chain that goes on behind
-- such a text are all read as their source text is: cut at its dots, without blanks, from left to
-- right.
import Watchtower.Proofs.Route

namespace Watchtower

open Text (Undotted)
open Source (Expr)

/-! ## Paths -/

/-- The pieces of a text between its dots, without the blanks around them. Empty ones do not
count. -/
def Text.segments (s : String) : List String :=
  ((dotted s).map trim).filter (!·.isEmpty)

/-- The expression is a path: features without dots, one behind the other, over a first such
feature or over a text. -/
inductive Source.Expr.IsPath : Expr → Prop where
  | root {feature : String} (declaredClass : Option String) (h : Undotted feature) :
      IsPath (.root feature declaredClass)
  | source (text : String) : IsPath (.source text)
  | member {receiver : Expr} {feature : String} (declaredClass : Option String)
      (hreceiver : IsPath receiver) (h : Undotted feature) :
      IsPath (.member receiver feature declaredClass)

/-- What an expression begins with. -/
def Source.Expr.innermost : Expr → Expr
  | .member receiver _ _ => receiver.innermost
  | e => e

/-- The class that declares the last feature of an expression, if it is a feature. -/
def Source.Expr.declaredClass? : Expr → Option String
  | .root _ declaredClass => declaredClass
  | .member _ _ declaredClass => declaredClass
  | _ => none

/-- The expression begins with no feature of a class. An empty name counts as none. -/
def Source.Expr.IsUnclassed (e : Expr) : Prop :=
  ∀ declaredClass, e.innermost.declaredClass? = some declaredClass → declaredClass = ""

theorem Route.rootClass?_eq_some {e : Expr} {declaredClass : String} :
    rootClass? e = some declaredClass ↔
      e.innermost.declaredClass? = some declaredClass ∧ declaredClass ≠ "" := by
  induction e with
  | literal value => simp [rootClass?, Expr.innermost, Expr.declaredClass?]
  | source text => simp [rootClass?, Expr.innermost, Expr.declaredClass?]
  | root feature c =>
    simp [rootClass?, Expr.innermost, Expr.declaredClass?, Option.filter_eq_some_iff]
  | member receiver feature c ih => exact ih

theorem Source.Expr.IsUnclassed.rootClass? {e : Expr} (h : e.IsUnclassed) :
    Route.rootClass? e = none := by
  rw [Option.eq_none_iff_forall_ne_some]
  intro declaredClass hclass
  obtain ⟨hdeclared, hne⟩ := Route.rootClass?_eq_some.mp hclass
  exact hne (h declaredClass hdeclared)

/-! ## Reading -/

theorem Text.dotted_of_undotted {s : String} (h : Undotted s) : dotted s = [s] := by
  unfold dotted split
  rw [splitList_of_not_mem h]
  simp

theorem Text.dotted_append_dot (first second : String) :
    dotted (first ++ "." ++ second) = dotted first ++ dotted second := by
  have hdot : (first ++ "." ++ second).toList = first.toList ++ '.' :: second.toList := by simp
  unfold dotted split
  rw [hdot, splitList_append_cons (p := (· == '.')) (by simp), List.map_append]

/-- The segments of a path are the pieces of its text. -/
theorem Source.Expr.IsPath.segments {e : Expr} (h : e.IsPath) :
    Route.segments e = (Text.dotted e.text).map Text.trim := by
  induction h with
  | root declaredClass h => rw [Route.segments, text, Text.dotted_of_undotted h]; rfl
  | source text => rfl
  | member declaredClass _ h ih =>
    rw [Route.segments, ih, text, Text.dotted_append_dot, Text.dotted_of_undotted h,
      List.map_append]
    rfl

theorem ofEmitter?_of_isPath {emitter : Expr} (h : emitter.IsPath)
    (monitor event : String) (index : SpaceIndex) :
    Route.ofEmitter? monitor event emitter index =
      match Text.segments emitter.text with
      | [] => none
      | root :: path =>
        some {
          exchange := ((Route.rootClass? emitter).or (index.canonical? root)).getD root
          routingKey := root
          queue := monitor ++ "." ++ event ++ "." ++ Text.join "." (root :: path)
          variablePath := Text.join "." path } := by
  rw [Route.ofEmitter?_eq, h.segments]
  rfl

/-! ## The law -/

/-- The route of a path is told by its text alone, unless a class is declared for what it begins
with. It has none where the text has no segments. Paths with the same segments have the same
route, however they are written. -/
theorem a_path_is_read_as_its_text (monitor event : String) (emitter : Expr) (index : SpaceIndex)
    (h : emitter.IsPath) :
    (Route.ofEmitter? monitor event emitter index = none ↔ Text.segments emitter.text = []) ∧
    (∀ root path, Text.segments emitter.text = root :: path →
      ∃ route, Route.ofEmitter? monitor event emitter index = some route ∧
        route.routingKey = root ∧
        route.variablePath = Text.join "." path ∧
        route.queue = monitor ++ "." ++ event ++ "." ++ Text.join "." (root :: path) ∧
        (emitter.IsUnclassed → route.exchange = (index.canonical? root).getD root)) ∧
    ∀ other : Expr, other.IsPath → Text.segments other.text = Text.segments emitter.text →
      emitter.IsUnclassed → other.IsUnclassed →
      Route.ofEmitter? monitor event other index =
        Route.ofEmitter? monitor event emitter index := by
  refine ⟨?_, ?_, ?_⟩
  · rw [ofEmitter?_of_isPath h]
    split
    · simp [*]
    · simp [*]
  · intro root path hsegments
    rw [ofEmitter?_of_isPath h, hsegments]
    refine ⟨_, rfl, rfl, rfl, rfl, fun hclass => ?_⟩
    simp [hclass.rootClass?]
  · intro other hother hsegments hclass hotherClass
    rw [ofEmitter?_of_isPath h, ofEmitter?_of_isPath hother, hsegments, hclass.rootClass?,
      hotherClass.rootClass?]

/-- A chain behind a text with blanks and an empty piece. -/
def limitBehindText : Expr :=
  .member (.member (.source " cpu . ") "limits" (some "Limits")) " max" none

theorem a_limit_behind_a_text_is_read_as_a_chain :
    (∃ route, Route.ofEmitter? "demo.Watch" "high" limitBehindText ⟨[("cpu", "demo.Cpu")]⟩ =
        some route ∧
      route.routingKey = "cpu" ∧ route.variablePath = "limits.max" ∧
      route.queue = "demo.Watch.high.cpu.limits.max" ∧ route.exchange = "demo.Cpu") ∧
    Route.ofEmitter? "demo.Watch" "high" (.chain ["cpu", "limits", "max"]) ⟨[("cpu", "demo.Cpu")]⟩ =
      Route.ofEmitter? "demo.Watch" "high" limitBehindText ⟨[("cpu", "demo.Cpu")]⟩ := by
  have hpath : limitBehindText.IsPath :=
    .member _ (.member _ (.source _) (by decide)) (by decide)
  have hclass : limitBehindText.IsUnclassed := by rintro c ⟨⟩
  obtain ⟨-, hroute, hsame⟩ := a_path_is_read_as_its_text "demo.Watch" "high" limitBehindText
    ⟨[("cpu", "demo.Cpu")]⟩ hpath
  obtain ⟨route, hsome, hkey, hvariable, hqueue, hexchange⟩ :=
    hroute "cpu" ["limits", "max"] (by decide +kernel)
  have hchain : (Expr.chain ["cpu", "limits", "max"]).IsPath :=
    .member _ (.member _ (.root _ (by decide)) (by decide)) (by decide)
  exact ⟨⟨route, hsome, hkey, hvariable, hqueue, hexchange hclass⟩,
    hsame _ hchain (by decide +kernel) hclass (by rintro c ⟨⟩)⟩

end Watchtower
