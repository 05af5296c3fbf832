-- Routes: the segments of an emitter from left to right, the canonical names of root namespaces,
-- and whose queue is whose. The name of a queue begins with its monitor and its event, so in one
-- package no two events share a queue.
import Watchtower.Proofs.Tables
import Watchtower.Proofs.Text.Pieces
import Watchtower.Route

namespace Watchtower

open Text (Undotted)
open Source (Expr SourceUnit)

/-! ## Segments -/

namespace Route

/-- The segments of a chain, in the order in which they are read. -/
def segments : Expr → List String
  | .member receiver feature _ => segments receiver ++ [Text.trim feature]
  | .root feature _ => [Text.trim feature]
  | .source text => (Text.dotted text).map Text.trim
  | .literal _ => []

/-- The way along a chain leads from its last segment to its first. -/
theorem walk_eq_reverse (emitter : Expr) : walk emitter = (segments emitter).reverse := by
  induction emitter with
  | member receiver feature declaredClass ih =>
    rw [walk, segments, ih, List.reverse_append, List.reverse_singleton, List.singleton_append]
  | root feature declaredClass => rfl
  | source text => rw [walk, segments, List.map_reverse]
  | literal value => rfl

/-- A path of segments that are not empty is empty just where it has none. -/
theorem isEmpty_join {path : List String} (h : ∀ s ∈ path, s.isEmpty = false) :
    (Text.join "." path).isEmpty = path.isEmpty := by
  cases path with
  | nil => rfl
  | cons first rest =>
    have hfirst := h first List.mem_cons_self
    rw [List.isEmpty_cons]
    cases rest with
    | nil => exact hfirst
    | cons second others =>
      rw [Text.join_cons (List.cons_ne_nil _ _)]
      simp

/-- The route of an emitter, told by its segments from left to right. -/
theorem ofEmitter?_eq (monitor event : String) (emitter : Expr) (index : SpaceIndex) :
    ofEmitter? monitor event emitter index =
      match (segments emitter).filter (!·.isEmpty) with
      | [] => none
      | root :: path =>
        some {
          exchange := ((rootClass? emitter).or (index.canonical? root)).getD root
          routingKey := root
          queue := monitor ++ "." ++ event ++ "." ++ Text.join "." (root :: path)
          variablePath := Text.join "." path } := by
  have hmet : (walk emitter).filter (!·.isEmpty) =
      ((segments emitter).filter (!·.isEmpty)).reverse := by
    rw [walk_eq_reverse, List.filter_reverse]
  have hnonempty : ∀ s ∈ (segments emitter).filter (!·.isEmpty), s.isEmpty = false := by
    intro s hs
    simpa using (List.mem_filter.mp hs).2
  unfold ofEmitter?
  rw [hmet]
  generalize (segments emitter).filter (!·.isEmpty) = kept at hnonempty
  cases kept with
  | nil => rfl
  | cons root path =>
    have hpath := isEmpty_join fun s hs => hnonempty s (List.mem_cons_of_mem _ hs)
    simp only [List.reverse_cons, List.getLast?_concat, List.dropLast_concat, List.reverse_reverse,
      Option.map_some, hpath]
    cases path with
    | nil => rfl
    | cons next rest =>
      rw [Text.join_cons (List.cons_ne_nil next rest)]
      simp [String.append_assoc]

end Route

/-! ## Qualified names -/

/-- What stands before the names of a package. -/
def packageStem : Option String → String
  | none => ""
  | some package => if package.isEmpty then "" else package ++ "."

theorem qualify_eq_append (package : Option String) (name : String) :
    Source.qualify package name = packageStem package ++ name := by
  cases package with
  | none => simp [Source.qualify, packageStem]
  | some package =>
    unfold Source.qualify packageStem
    by_cases h : package.isEmpty = true
    · simp [h]
    · simp [h]

/-! ## Queues -/

/-- The queue belongs to an event of a monitor: it is named after both, and perhaps after more. -/
def Owns (monitor event queue : String) : Prop :=
  queue = monitor ++ "." ++ event ∨ ∃ rest, queue = monitor ++ "." ++ event ++ "." ++ rest

theorem splitList_undotted {word : List Char} (text : List Char) (hword : '.' ∉ word) :
    Text.splitList (· == '.') (word ++ '.' :: text) =
      word :: Text.splitList (· == '.') text := by
  have htext : Text.splitList (· == '.') ('.' :: text) = [] :: Text.splitList (· == '.') text := by
    simp [Text.splitList]
  simpa using Text.splitList_append (Text.beq_of_not_mem hword) htext

/-- Cut at its dots, the name of a queue without its package begins with its owners. -/
theorem dotted_of_owns {package : Option String} {monitor event queue : String}
    (hmonitor : Undotted monitor) (hevent : Undotted event)
    (h : Owns (Source.qualify package monitor) event queue) :
    ∃ text more, queue = packageStem package ++ text ∧
      Text.splitList (· == '.') text.toList = monitor.toList :: event.toList :: more := by
  rw [qualify_eq_append] at h
  rcases h with rfl | ⟨rest, rfl⟩
  · refine ⟨monitor ++ "." ++ event, [], by simp [String.append_assoc], ?_⟩
    have hlast : Text.splitList (· == '.') event.toList = [event.toList] := by
      have hword : Text.splitList (· == '.') (event.toList ++ []) = _ :=
        Text.splitList_append (Text.beq_of_not_mem hevent) rfl
      simpa using hword
    have hall := splitList_undotted event.toList hmonitor
    rw [hlast] at hall
    simpa using hall
  · refine ⟨monitor ++ "." ++ event ++ "." ++ rest, Text.splitList (· == '.') rest.toList,
      by simp [String.append_assoc], ?_⟩
    have hall := splitList_undotted (event.toList ++ '.' :: rest.toList) hmonitor
    rw [splitList_undotted rest.toList hevent] at hall
    simpa using hall

/-- In one package, the name of a queue tells the monitor and the event that it belongs to. -/
theorem owners_unique {package : Option String} {monitor monitor' event event' queue : String}
    (hmonitor : Undotted monitor) (hevent : Undotted event) (hmonitor' : Undotted monitor')
    (hevent' : Undotted event') (h : Owns (Source.qualify package monitor) event queue)
    (h' : Owns (Source.qualify package monitor') event' queue) :
    monitor = monitor' ∧ event = event' := by
  obtain ⟨text, more, hqueue, hpieces⟩ := dotted_of_owns hmonitor hevent h
  obtain ⟨text', more', hqueue', hpieces'⟩ := dotted_of_owns hmonitor' hevent' h'
  have htext : text = text' := (String.append_right_inj _).mp (hqueue.symm.trans hqueue')
  subst htext
  rw [hpieces] at hpieces'
  simp only [List.cons.injEq, String.toList_inj] at hpieces'
  exact ⟨hpieces'.1, hpieces'.2.1⟩

/-- The queue of a route belongs to its event. -/
theorem owns_of_ofEmitter? {monitor event : String} {emitter : Expr} {index : SpaceIndex}
    {route : Route} (h : Route.ofEmitter? monitor event emitter index = some route) :
    Owns monitor event route.queue := by
  rw [Route.ofEmitter?_eq] at h
  split at h
  · cases h
  · cases h
    exact .inr ⟨_, rfl⟩

/-! ## Canonical names -/

theorem roots_ofUnits (units : List SourceUnit) :
    (SpaceIndex.ofUnits units).roots = (units.flatMap SpaceIndex.rootsOf).reverse := by
  have hfold : ∀ (entries : List (String × String)) (index : SpaceIndex),
      (entries.foldl (fun index entry => index.insert entry.1 entry.2) index).roots =
        entries.reverse ++ index.roots := by
    intro entries
    induction entries with
    | nil => simp
    | cons entry rest ih =>
      intro index
      rw [List.foldl_cons, ih, List.reverse_cons, List.append_assoc]
      rfl
  unfold SpaceIndex.ofUnits
  rw [hfold]
  simp

/-- Where root namespaces have distinct names, the index knows each by its own canonical name. -/
theorem canonical?_ofUnits {units : List SourceUnit}
    (hnames : ((units.flatMap SpaceIndex.rootsOf).map (·.1)).Nodup) {unit : SourceUnit}
    (hunit : unit ∈ units) {decl : Source.Namespace} (hdecl : .space decl ∈ unit.declarations) :
    (SpaceIndex.ofUnits units).canonical? decl.name =
      some (unit.qualify (Naming.pascal decl.name)) := by
  unfold SpaceIndex.canonical?
  rw [roots_ofUnits]
  apply lookup_of_mem
  · rw [List.map_reverse]
    exact List.pairwise_reverse.mpr (hnames.imp Ne.symm)
  · rw [List.mem_reverse, List.mem_flatMap]
    exact ⟨unit, hunit, List.mem_filterMap.mpr ⟨.space decl, hdecl, rfl⟩⟩

end Watchtower
