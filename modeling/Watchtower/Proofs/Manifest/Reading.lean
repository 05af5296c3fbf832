-- Manifests are read back from their text. What is left out where there is nothing to write is
-- taken for nothing on reading, and the tables of a manifest ascend, so that reading enters their
-- names in the order in which they stand.
import Watchtower.Compilation
import Watchtower.Proofs.Json.Records

namespace Watchtower

open Json
open Json.Doc

/-! ## Tables -/

theorem areWholeFields_map {α : Type} {form : α → Json} {table : List (String × α)}
    (h : ∀ entry ∈ table, (form entry.2).isWhole) :
    areWholeFields (table.map fun (name, a) => (name, form a)) := by
  rw [areWholeFields_iff, List.forall_mem_map]
  exact h

/-- A table that ascends is read back where each of its values is. -/
theorem table?_docOf {α : Type} {read : Doc → Option α} {form : α → Json}
    {table : List (String × α)} (hascends : Sorted.Ascends table)
    (h : ∀ entry ∈ table, read (docOf (form entry.2)) = some entry.2) :
    table? read (docOf (.obj (table.map fun (name, a) => (name, form a)))) = some table := by
  have hentries : (docFields (table.map fun (name, a) => (name, form a))).mapM
      (fun e => do return (← e.1, ← read e.2)) = some table := by
    clear hascends
    induction table with
    | nil => rfl
    | cons entry rest ih =>
      obtain ⟨name, a⟩ := entry
      have hvalue : read (docOf (form a)) = some a := h _ List.mem_cons_self
      have hrest := ih fun e he => h e (List.mem_cons_of_mem _ he)
      simp only [List.map_cons, docFields, List.mapM_cons, hvalue, hrest]
      rfl
  calc table? read (docOf (.obj (table.map fun (name, a) => (name, form a))))
      = some (Sorted.ofList table) := by
        show (do return Sorted.ofList (← _) : Option (List (String × α))) = _
        rw [hentries]
        rfl
    _ = some table := by rw [Sorted.ofList_of_ascends hascends]

/-! ## Fields that are left out -/

/-- The fields of an object. -/
def Json.fields : Json → List (String × Json)
  | .obj fields => fields
  | _ => []

section OptionalField

variable {α : Type} (name other : String) (form : α → Json) (value : Option α)

@[simp] theorem lookup_optionalField : (optionalField name form value).lookup other =
    if other = name then value.map form else none := by
  cases value with
  | none => simp [optionalField]
  | some a =>
    by_cases h : other = name <;>
      simp [optionalField, List.lookup_cons, h, beq_false_of_ne]

theorem names_optionalField : ((optionalField name form value).map (·.1)).Sublist [name] := by
  cases value <;> simp [optionalField]

end OptionalField

theorem optionalField_isWhole {α : Type} {name : String} {form : α → Json} {value : Option α}
    (h : ∀ a ∈ value, (form a).isWhole) : areWholeFields (optionalField name form value) := by
  cases value with
  | none => rfl
  | some a => simpa [optionalField, areWholeFields] using h

/-! ## Events and handlers -/

theorem EventKind.ofDoc?_docOf (kind : EventKind) :
    EventKind.ofDoc? (docOf (.str kind.name)) = some kind := by
  cases kind <;> rfl

theorem Binding.ofDoc?_docOf (b : Binding) : Binding.ofDoc? (docOf b.toJson) = some b := by
  rw [Binding.ofDoc?, Binding.toJson, record?_docOf ⟨by simp, by simp⟩]
  simp [List.lookup_cons]

theorem EventEntry.record?_docOf (e : EventEntry) :
    (docOf e.toJson).record?
        ["name", "kind", "payload", "cron", "binding", "variablePath", "filtered"] =
      some (written e.toJson.fields) := by
  refine Doc.record?_docOf (.of_sublist ?_ (by decide))
  simp only [List.map_append]
  exact (((((List.Sublist.refl ["name", "kind"]).append (names_optionalField ..)).append
    (names_optionalField ..)).append (names_optionalField ..)).append
    (names_optionalField ..)).append (.refl ["filtered"])

/-- An event is read back, also where it has no payload, no schedule, no binding or no path. -/
theorem EventEntry.ofDoc?_docOf (e : EventEntry) :
    EventEntry.ofDoc? (docOf e.toJson) = some e := by
  have hpayload : e.toJson.fields.lookup "payload" =
      e.payload.map fun kind : EventKind => .str kind.name := by
    simp [EventEntry.toJson, Json.fields, List.lookup_cons, List.lookup_append]
  have hcron : e.toJson.fields.lookup "cron" = e.cron.map .str := by
    simp [EventEntry.toJson, Json.fields, List.lookup_cons, List.lookup_append]
  have hbinding : e.toJson.fields.lookup "binding" = e.binding.map Binding.toJson := by
    simp [EventEntry.toJson, Json.fields, List.lookup_cons, List.lookup_append]
  have hpath : e.toJson.fields.lookup "variablePath" = e.variablePath.map .str := by
    simp [EventEntry.toJson, Json.fields, List.lookup_cons, List.lookup_append]
  have hname : e.toJson.fields.lookup "name" = some (.str e.name) := rfl
  have hkind : e.toJson.fields.lookup "kind" = some (.str e.kind) := rfl
  have hfiltered : e.toJson.fields.lookup "filtered" = some (.bool e.filtered) := by
    simp [EventEntry.toJson, Json.fields, List.lookup_cons, List.lookup_append]
  have hguard : hasItems 6 (docOf e.toJson) = true := rfl
  rw [EventEntry.ofDoc?, guard_eq_some hguard, e.record?_docOf]
  simp [hname, hkind, hfiltered,
    opt?_of_lookup hpayload rfl fun kind _ => kind.ofDoc?_docOf,
    opt?_of_lookup hcron rfl fun text _ => text?_docOf text,
    opt?_of_lookup hbinding rfl fun b _ => b.ofDoc?_docOf,
    opt?_of_lookup hpath rfl fun text _ => text?_docOf text]

theorem areWholeFields_append {fields more : List (String × Json)} :
    areWholeFields (fields ++ more) ↔ areWholeFields fields ∧ areWholeFields more := by
  simp only [areWholeFields_iff, List.forall_mem_append]

theorem EventEntry.toJson_isWhole (e : EventEntry) : e.toJson.isWhole := by
  have hpayload : areWholeFields (optionalField "payload" (fun kind : EventKind => .str kind.name)
    e.payload) := optionalField_isWhole fun _ _ => rfl
  have hcron : areWholeFields (optionalField "cron" .str e.cron) :=
    optionalField_isWhole fun _ _ => rfl
  have hbinding : areWholeFields (optionalField "binding" Binding.toJson e.binding) :=
    optionalField_isWhole fun _ _ => rfl
  have hpath : areWholeFields (optionalField "variablePath" .str e.variablePath) :=
    optionalField_isWhole fun _ _ => rfl
  simp only [EventEntry.toJson, isWhole, areWholeFields_append, hpayload, hcron, hbinding, hpath]
  simp [areWholeFields, isWhole]

theorem HandlerEntry.ofDoc?_docOf (h : HandlerEntry) :
    HandlerEntry.ofDoc? (docOf h.toJson) = some h := by
  rw [HandlerEntry.ofDoc?, HandlerEntry.toJson, Doc.record?_docOf ⟨by simp, by simp⟩]
  simp [List.lookup_cons, EventKind.ofDoc?_docOf]

/-! ## Monitors -/

theorem MonitorEntry.toJson_isWhole {m : MonitorEntry} (h : m.codeBlocks < Number.wordLimit) :
    m.toJson.isWhole := by
  have hevents : areWhole (m.events.map EventEntry.toJson) :=
    areWhole_map fun e _ => e.toJson_isWhole
  have hhandlers : areWhole (m.handlers.map HandlerEntry.toJson) := areWhole_map fun _ _ => rfl
  have husings : areWholeFields
      (if m.usings.isEmpty then [] else [("usings", .ofTexts m.usings)]) := by
    split
    · rfl
    · simp [areWholeFields, isWhole_ofTexts]
  simp only [MonitorEntry.toJson, isWhole, areWholeFields_append, husings]
  simp [areWholeFields, isWhole, hevents, hhandlers, isWhole_ofNat h]

/-- A monitor is read back, also where it uses no namespace. -/
theorem MonitorEntry.ofDoc?_docOf {m : MonitorEntry} (h : m.codeBlocks < Number.wordLimit) :
    MonitorEntry.ofDoc? (docOf m.toJson) = some m := by
  have hevents : list? EventEntry.ofDoc? (docOf (.arr (m.events.map EventEntry.toJson))) =
      some m.events := list?_docOf fun e _ => e.ofDoc?_docOf
  have hhandlers : list? HandlerEntry.ofDoc? (docOf (.arr (m.handlers.map HandlerEntry.toJson))) =
      some m.handlers := list?_docOf fun h _ => h.ofDoc?_docOf
  have husings : list? text? (docOf (.ofTexts m.usings)) = some m.usings :=
    list?_docOf fun _ _ => rfl
  rw [MonitorEntry.ofDoc?, MonitorEntry.toJson]
  by_cases hempty : m.usings = []
  · rw [Doc.record?_docOf ⟨by simp [hempty], by simp [hempty]⟩]
    obtain ⟨typeName, usings, events, handlers, codeBlocks⟩ := m
    cases hempty
    simp [List.lookup_cons, hevents, hhandlers, word?_docOf h]
  · rw [Doc.record?_docOf ⟨by simp [hempty], by simp [hempty]⟩]
    simp [List.lookup_cons, hempty, husings, hevents, hhandlers, word?_docOf h]

/-! ## Namespaces -/

/-- The variables of a namespace stand in the order of their names, and their values are exact. -/
def SpaceEntry.IsExact (s : SpaceEntry) : Prop :=
  Sorted.Ascends s.vars ∧ ∀ entry ∈ s.vars, entry.2.isExact (Json.maxDepth - 4)

theorem SpaceEntry.toJson_isWhole {s : SpaceEntry} (h : s.IsExact) : s.toJson.isWhole := by
  have hvars : areWholeFields s.vars := by
    rw [areWholeFields_iff]
    exact fun entry hentry => isWhole_of_isExact (h.2 entry hentry)
  simp [SpaceEntry.toJson, isWhole, areWholeFields, hvars]

theorem SpaceEntry.ofDoc?_docOf {s : SpaceEntry} (h : s.IsExact) :
    SpaceEntry.ofDoc? (docOf s.toJson) = some s := by
  have hvars : table? (Doc.value? (Json.maxDepth - 4)) (docOf (.obj s.vars)) = some s.vars := by
    have htable : table? (Doc.value? (Json.maxDepth - 4))
        (docOf (.obj (s.vars.map fun (name, v) => (name, id v)))) = some s.vars :=
      table?_docOf h.1 fun entry hentry => value?_docOf (h.2 entry hentry)
    simpa using htable
  rw [SpaceEntry.ofDoc?, SpaceEntry.toJson, Doc.record?_docOf ⟨by simp, by simp⟩]
  simp [List.lookup_cons, hvars]

/-! ## Manifests -/

/-- The tables of a manifest ascend, its counts are words, and its values are exact. -/
structure Manifest.IsReadable (m : Manifest) : Prop where
  monitors : Sorted.Ascends m.monitors
  spaces : Sorted.Ascends m.spaces
  counts : ∀ entry ∈ m.monitors, entry.2.codeBlocks < Number.wordLimit
  vars : ∀ entry ∈ m.spaces, entry.2.IsExact

theorem Manifest.toJson_isWhole {m : Manifest} (h : m.IsReadable) : m.toJson.isWhole := by
  have hmonitors := areWholeFields_map fun entry hentry =>
    MonitorEntry.toJson_isWhole (h.counts entry hentry)
  have hspaces := areWholeFields_map fun entry hentry =>
    SpaceEntry.toJson_isWhole (h.vars entry hentry)
  simp [Manifest.toJson, isWhole, areWholeFields, hmonitors, hspaces]

/-- The document of a manifest is read as the manifest. -/
theorem Manifest.ofDoc?_docOf {m : Manifest} (h : m.IsReadable) :
    Manifest.ofDoc? (docOf m.toJson) = some m := by
  have hmonitors := table?_docOf h.monitors fun entry hentry =>
    MonitorEntry.ofDoc?_docOf (h.counts entry hentry)
  have hspaces := table?_docOf h.spaces fun entry hentry =>
    SpaceEntry.ofDoc?_docOf (h.vars entry hentry)
  rw [Manifest.ofDoc?, Manifest.toJson, Doc.record?_docOf ⟨by simp, by simp⟩]
  simp [List.lookup_cons, hmonitors, hspaces]

/-! ## First values -/

/-- The value is a double. -/
def Json.isDouble : Json → Bool
  | .num (.float _) => true
  | _ => false

/-- The expressions that compute the first values of the variables of a namespace. -/
def Blueprint.initializers (b : Blueprint) : List Source.Expr :=
  ((b.walk.filter (·.kind == .namespaceStorage)).flatMap (·.constructor)).filterMap fun
    | .registerVariable _ initializer _ => some initializer
    | _ => none

theorem Source.Literal.value_isExact {l : Source.Literal} (h : ¬ l.value.isDouble) (n : Nat) :
    l.value.isExact n := by
  cases l with
  | number text =>
    rw [Source.Literal.value] at h ⊢
    cases hread : Number.ofText? (Text.trimList text.toList) with
    | none => rfl
    | some number =>
      rw [hread] at h
      cases number with
      | int value => exact isWord_of_ofText? hread
      | float bits => exact absurd rfl h
  | _ => rfl

/-- A first value that is no double is exact. -/
theorem initialValue_isExact {e : Source.Expr} (h : ¬ (initialValue e).isDouble) (n : Nat) :
    (initialValue e).isExact n := by
  cases e with
  | literal l => exact l.value_isExact h n
  | _ => rfl

theorem SpaceEntry.ofBlueprint_isExact {b : Blueprint}
    (h : ∀ e ∈ b.initializers, ¬ (initialValue e).isDouble) :
    (SpaceEntry.ofBlueprint b).IsExact := by
  refine ⟨Sorted.ofList_ascends _, fun entry hentry => ?_⟩
  obtain ⟨stmt, hstmt, hvalue⟩ := List.mem_filterMap.mp (Sorted.mem_of_mem_ofList hentry)
  cases stmt with
  | registerVariable name initializer writable =>
    cases hvalue
    exact initialValue_isExact (h _ (List.mem_filterMap.mpr ⟨_, hstmt, rfl⟩)) _
  | _ => cases hvalue

theorem Manifest.isReadable_ofBlueprints {bs : List Blueprint}
    (hvalues : ∀ b ∈ bs, ∀ e ∈ b.initializers, ¬ (initialValue e).isDouble)
    (hcounts : ∀ b ∈ bs, b.methods.length < Number.wordLimit) (generatedAt : String) :
    (Manifest.ofBlueprints generatedAt bs).IsReadable where
  monitors := Sorted.ofList_ascends _
  spaces := Sorted.ofList_ascends _
  counts := by
    intro entry hentry
    obtain ⟨b, hb, hentry⟩ := List.mem_filterMap.mp (Sorted.mem_of_mem_ofList hentry)
    split at hentry
    · cases hentry
      exact Nat.lt_of_le_of_lt List.countP_le_length (hcounts b hb)
    · cases hentry
  vars := by
    intro entry hentry
    obtain ⟨b, hb, hentry⟩ := List.mem_filterMap.mp (Sorted.mem_of_mem_ofList hentry)
    split at hentry
    · cases hentry
      exact SpaceEntry.ofBlueprint_isExact (hvalues b hb)
    · cases hentry

/-! ## The law -/

/-- The manifest of any blueprints is written as text over many lines. Where no variable begins
with a double and methods are fewer than words can count, just this manifest is loaded from a file
with that text. -/
theorem a_written_manifest_is_read_back {bs : List Blueprint}
    (hvalues : ∀ b ∈ bs, ∀ e ∈ b.initializers, ¬ (initialValue e).isDouble)
    (hcounts : ∀ b ∈ bs, b.methods.length < Number.wordLimit) {generatedAt path : String}
    {tree : FileTree} (hfile : tree.get? (FileTree.components path) =
      some (.file (some (Manifest.ofBlueprints generatedAt bs).toJson.pretty))) :
    Compilation.loadManifest tree path = .ok (some (.ofBlueprints generatedAt bs)) := by
  have hreadable := Manifest.isReadable_ofBlueprints hvalues hcounts generatedAt
  have hdoc := ofText?_text_of_isWhole (Manifest.toJson_isWhole hreadable) _
    (List.mem_cons_of_mem _ List.mem_cons_self)
  have hread : Manifest.ofText? (Manifest.ofBlueprints generatedAt bs).toJson.pretty =
      some (.ofBlueprints generatedAt bs) := by
    rw [Manifest.ofText?, hdoc, Option.bind_some, Manifest.ofDoc?_docOf hreadable]
  simp only [Compilation.loadManifest, hfile, hread]

/-- A package with entries of each shape: first values of each kind, a monitor with nothing in it,
and one with an event of each kind. -/
def keptUnits : List Source.SourceUnit := [⟨some "demo", [
  .space ⟨"cpu", [
    .variable ⟨"load", none, .literal (.number " 18446744073709551615 "), true⟩,
    .variable ⟨"drift", none, .literal (.number "-5"), true⟩,
    .variable ⟨"label", none, .literal (.number "1.5.0"), false⟩,
    .space "limits" [
      .variable ⟨"on", none, .literal (.bool true), false⟩,
      .variable ⟨"peak", none, .literal .null, false⟩,
      .variable ⟨"max", none, .source "detect(\"core\")", false⟩] none], none⟩,
  .monitor ⟨"Idle", [], [], none⟩,
  .monitor ⟨"Perf", ["cpu"], [
    .event ⟨"tick", .periodic "* * * * *", none⟩,
    .event ⟨"call", .typed .invoke (.source "f()") none, none⟩,
    .event ⟨"any", .typed .change (.chain ["cpu", "load"]) none, none⟩,
    .event ⟨"hot", .typed .change (.chain ["cpu", "load"])
      (some (.leaf .above (.literal (.number "90")) false)), none⟩,
    .handler ⟨"onTick", "e", "IntervalEvent", "note(e)", none, none⟩,
    .code "tick.subscribe(onTick)"], none⟩]⟩]

def keptBlueprints : List Blueprint := (Report.ofUnits keptUnits true).blueprints

/-- A directory with the manifest of the package. -/
def keptTree : FileTree := .dir [("vigil.manifest.json",
  .file (some (Manifest.ofBlueprints "today" keptBlueprints).toJson.pretty))]

theorem a_kept_manifest_is_read_back :
    keptBlueprints.map (·.qualifiedName) = ["demo.Cpu", "demo.Idle", "demo.Perf"] ∧
    (∀ b ∈ keptBlueprints, ∀ e ∈ b.initializers, ¬ (initialValue e).isDouble) ∧
    (∀ b ∈ keptBlueprints, b.methods.length < Number.wordLimit) ∧
    keptTree.get? (FileTree.components "./vigil.manifest.json") =
      some (.file (some (Manifest.ofBlueprints "today" keptBlueprints).toJson.pretty)) ∧
    Compilation.loadManifest keptTree "./vigil.manifest.json" =
      .ok (some (.ofBlueprints "today" keptBlueprints)) := by
  have hvalues : ∀ b ∈ keptBlueprints, ∀ e ∈ b.initializers, ¬ (initialValue e).isDouble := by
    decide +kernel
  have hcounts : ∀ b ∈ keptBlueprints, b.methods.length < Number.wordLimit := by decide +kernel
  have hpath : FileTree.components "./vigil.manifest.json" = ["vigil.manifest.json"] := by
    decide +kernel
  have hfile : keptTree.get? (FileTree.components "./vigil.manifest.json") =
      some (.file (some (Manifest.ofBlueprints "today" keptBlueprints).toJson.pretty)) := by
    rw [hpath]
    rfl
  exact ⟨by decide +kernel, hvalues, hcounts, hfile,
    a_written_manifest_is_read_back hvalues hcounts hfile⟩

end Watchtower
