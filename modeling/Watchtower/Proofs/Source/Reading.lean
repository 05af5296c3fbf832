-- Source trees are read back from their text. Every field is written and every name that is
-- written is known, so each kind of node is read as it was written, one after the other from the
-- literals up to the unit. The reader counts how deep it goes, and containers are at least as deep.
import Watchtower.Compilation
import Watchtower.Proofs.Json.Records

namespace Watchtower.Source

open Json
open Json.Doc

/-! ## Expressions -/

theorem Literal.ofDoc?_docOf (l : Literal) : Literal.ofDoc? (docOf l.toJson) = some l := by
  cases l <;> rfl

theorem Literal.toJson_isWhole (l : Literal) : l.toJson.isWhole := by
  cases l <;> rfl

theorem Expr.toJson_isWhole (e : Expr) : e.toJson.isWhole := by
  induction e with
  | literal value => simp [Expr.toJson, isWhole, areWholeFields, value.toJson_isWhole]
  | root feature declaredClass =>
    simp [Expr.toJson, isWhole, areWholeFields, isWhole_ofText?]
  | member receiver feature declaredClass ih =>
    simp [Expr.toJson, isWhole, areWholeFields, isWhole_ofText?, ih]
  | source text => rfl

theorem Expr.toJson_depth_pos (e : Expr) : 0 < e.toJson.depth := by
  cases e <;> simp [Expr.toJson, depth]

theorem Expr.ofDoc?_null (byIndex : Bool) (n : Nat) : Expr.ofDoc? byIndex n .null = none := by
  cases n <;> rfl

/-- An expression is read back with as many steps as its containers are deep. -/
theorem Expr.ofDoc?_docOf (e : Expr) (byIndex : Bool) {n : Nat} (h : e.toJson.depth ≤ n) :
    Expr.ofDoc? byIndex n (docOf e.toJson) = some e := by
  induction n generalizing e byIndex with
  | zero => exact absurd (e.toJson_depth_pos) (Nat.not_lt.mpr h)
  | succ n ih =>
    cases e with
    | literal value =>
      rw [Expr.ofDoc?, Expr.toJson, choice?_docOf rfl (by simp) ⟨by simp, by simp⟩]
      simp [Literal.ofDoc?_docOf]
    | root feature declaredClass =>
      rw [Expr.ofDoc?, Expr.toJson, choice?_docOf rfl (by simp) ⟨by simp, by simp⟩]
      simp [List.lookup_cons]
    | member receiver feature declaredClass =>
      have hdepth : receiver.toJson.depth ≤ n := by
        simp only [Expr.toJson, depth, fieldsDepth] at h
        omega
      have hreceiver := nullable?_of_read (Expr.ofDoc?_null true n) (ih receiver true hdepth)
      rw [Expr.ofDoc?, Expr.toJson, choice?_docOf rfl (by simp) ⟨by simp, by simp⟩]
      simp [List.lookup_cons, hreceiver]
    | source text =>
      rw [Expr.ofDoc?, Expr.toJson, choice?_docOf rfl (by simp) ⟨by simp, by simp⟩]
      simp

/-! ## Specifiers -/

theorem Relation.plainChoice?_docOf (r : Relation) :
    plainChoice? ["ABOVE", "BELOW", "EQUAL"] (docOf (.str r.name)) = some r.name := by
  cases r <;> rfl

theorem Relation.ofName?_name (r : Relation) : Relation.ofName? r.name = some r := by
  cases r <;> rfl

theorem Connective.plainChoice?_docOf (c : Connective) :
    plainChoice? ["AND", "OR"] (docOf (.str c.name)) = some c.name := by
  cases c <;> rfl

theorem Connective.ofName?_name (c : Connective) : Connective.ofName? c.name = some c := by
  cases c <;> rfl

theorem Specifier.toJson_isWhole (s : Specifier) : s.toJson.isWhole := by
  induction s with
  | leaf relation value percentage =>
    simp [Specifier.toJson, isWhole, areWholeFields, value.toJson_isWhole]
  | node connective left right ihleft ihright =>
    simp [Specifier.toJson, isWhole, areWholeFields, ihleft, ihright]

theorem Specifier.toJson_depth_pos (s : Specifier) : 0 < s.toJson.depth := by
  cases s <;> simp [Specifier.toJson, depth]

theorem Specifier.ofDoc?_null (byIndex : Bool) (n : Nat) :
    Specifier.ofDoc? byIndex n .null = none := by
  cases n <;> rfl

/-- A specifier is read back with as many steps as its containers are deep. -/
theorem Specifier.ofDoc?_docOf (s : Specifier) (byIndex : Bool) {n : Nat}
    (h : s.toJson.depth ≤ n) : Specifier.ofDoc? byIndex n (docOf s.toJson) = some s := by
  induction n generalizing s byIndex with
  | zero => exact absurd (s.toJson_depth_pos) (Nat.not_lt.mpr h)
  | succ n ih =>
    cases s with
    | leaf relation value percentage =>
      have hdepth : value.toJson.depth ≤ n := by
        simp only [Specifier.toJson, depth, fieldsDepth] at h
        omega
      rw [Specifier.ofDoc?, Specifier.toJson, choice?_docOf rfl (by simp) ⟨by simp, by simp⟩]
      simp [List.lookup_cons, relation.plainChoice?_docOf, relation.ofName?_name,
        value.ofDoc?_docOf true hdepth]
    | node connective left right =>
      have hleft : left.toJson.depth ≤ n := by
        simp only [Specifier.toJson, depth, fieldsDepth] at h
        omega
      have hright : right.toJson.depth ≤ n := by
        simp only [Specifier.toJson, depth, fieldsDepth] at h
        omega
      rw [Specifier.ofDoc?, Specifier.toJson, choice?_docOf rfl (by simp) ⟨by simp, by simp⟩]
      simp [List.lookup_cons, connective.plainChoice?_docOf, connective.ofName?_name,
        ih left true hleft, ih right true hright]

/-! ## Spans -/

/-- The numbers of a span are words of 64 bits. -/
structure Span.IsWord (s : Span) : Prop where
  startLine : s.startLine < Number.wordLimit
  startCol : s.startCol < Number.wordLimit
  endLine : s.endLine < Number.wordLimit
  endCol : s.endCol < Number.wordLimit

theorem Span.toJson_isWhole {s : Span} (h : s.IsWord) : s.toJson.isWhole := by
  simp [Span.toJson, isWhole, areWholeFields, isWhole_ofNat h.startLine, isWhole_ofNat h.startCol,
    isWhole_ofNat h.endLine, isWhole_ofNat h.endCol]

theorem Span.ofDoc?_docOf {s : Span} (h : s.IsWord) : Span.ofDoc? (docOf s.toJson) = some s := by
  rw [Span.ofDoc?, Span.toJson, record?_docOf ⟨by simp, by simp⟩]
  simp [List.lookup_cons, word?_docOf h.startLine, word?_docOf h.startCol, word?_docOf h.endLine,
    word?_docOf h.endCol]

theorem Span.optionJson_eq (s : Option Span) :
    Span.optionJson s = (s.map Span.toJson).getD .null := by
  cases s <;> rfl

theorem Span.optionJson_isWhole {s : Option Span} (h : ∀ span ∈ s, span.IsWord) :
    (Span.optionJson s).isWhole := by
  cases s with
  | none => rfl
  | some span => exact Span.toJson_isWhole (h span rfl)

theorem Span.nullable?_docOf {s : Option Span} (h : ∀ span ∈ s, span.IsWord) :
    nullable? Span.ofDoc? (docOf (Span.optionJson s)) = some s := by
  rw [Span.optionJson_eq]
  exact Doc.nullable?_docOf rfl fun span hspan => Span.ofDoc?_docOf (h span hspan)

/-! ## Namespaces -/

theorem Variable.fields_isWhole (v : Variable) : areWholeFields v.fields := by
  simp [Variable.fields, areWholeFields, isWhole, isWhole_ofText?, v.initializer.toJson_isWhole]

theorem Variable.ofFields?_written (v : Variable) {n : Nat} (h : v.initializer.toJson.depth ≤ n) :
    Variable.ofFields? n (written v.fields) = some v := by
  simp [Variable.ofFields?, Variable.fields, List.lookup_cons, v.initializer.ofDoc?_docOf true h]

mutual

/-- The spans of a statement of a namespace, with those within it. -/
def SpaceItem.spans : SpaceItem → List Span
  | .variable _ => []
  | .space _ body span => span.toList ++ SpaceItem.allSpans body

/-- The spans of statements of a namespace. -/
def SpaceItem.allSpans : List SpaceItem → List Span
  | [] => []
  | item :: rest => item.spans ++ SpaceItem.allSpans rest

end

theorem SpaceItem.mem_allSpans {body : List SpaceItem} {s : Span} :
    s ∈ SpaceItem.allSpans body ↔ ∃ item ∈ body, s ∈ item.spans := by
  induction body with
  | nil => simp [SpaceItem.allSpans]
  | cons item rest ih => simp [SpaceItem.allSpans, ih]

theorem SpaceItem.listJson_eq_map (body : List SpaceItem) :
    SpaceItem.listJson body = body.map SpaceItem.toJson := by
  induction body with
  | nil => rfl
  | cons item rest ih => rw [SpaceItem.listJson, ih, List.map_cons]

mutual

theorem SpaceItem.toJson_isWhole : ∀ {item : SpaceItem}, (∀ s ∈ item.spans, s.IsWord) →
    item.toJson.isWhole
  | .variable decl, _ => by
    simpa [SpaceItem.toJson, isWhole, areWholeFields] using decl.fields_isWhole
  | .space name body span, h => by
    have hspan : (Span.optionJson span).isWhole := Span.optionJson_isWhole fun s hs =>
      h s (List.mem_append_left _ (Option.mem_toList.mpr hs))
    have hbody : areWhole (SpaceItem.listJson body) := SpaceItem.listJson_areWhole fun s hs =>
      h s (List.mem_append_right _ hs)
    simp [SpaceItem.toJson, isWhole, areWholeFields, hspan, hbody]

theorem SpaceItem.listJson_areWhole : ∀ {body : List SpaceItem},
    (∀ s ∈ SpaceItem.allSpans body, s.IsWord) → areWhole (SpaceItem.listJson body)
  | [], _ => rfl
  | _ :: _, h => Bool.and_eq_true_iff.mpr
    ⟨SpaceItem.toJson_isWhole fun s hs => h s (List.mem_append_left _ hs),
      SpaceItem.listJson_areWhole fun s hs => h s (List.mem_append_right _ hs)⟩

end

theorem SpaceItem.toJson_depth_pos (item : SpaceItem) : 0 < item.toJson.depth := by
  cases item <;> simp [SpaceItem.toJson, depth]

/-- A statement of a namespace is read back with as many steps as its containers are deep. -/
theorem SpaceItem.ofDoc?_docOf {item : SpaceItem} {n : Nat} (hspans : ∀ s ∈ item.spans, s.IsWord)
    (h : item.toJson.depth ≤ n) : SpaceItem.ofDoc? n (docOf item.toJson) = some item := by
  induction n generalizing item with
  | zero => exact absurd (item.toJson_depth_pos) (Nat.not_lt.mpr h)
  | succ n ih =>
    rcases item with decl | ⟨name, body, span⟩
    · have hdepth : decl.initializer.toJson.depth ≤ n := by
        simp only [SpaceItem.toJson, Variable.fields, depth, fieldsDepth] at h
        omega
      rw [SpaceItem.ofDoc?, SpaceItem.toJson, choice?_docOf rfl (by simp [Variable.fields])
        ⟨by simp [Variable.fields, Variable.fieldNames], by simp [Variable.fields]⟩]
      simp [decl.ofFields?_written hdepth]
    · have hdepths : itemsDepth (body.map SpaceItem.toJson) ≤ n := by
        simp only [SpaceItem.toJson, SpaceItem.listJson_eq_map, depth, fieldsDepth] at h
        omega
      have hbody : list? (SpaceItem.ofDoc? n) (docOf (.arr (body.map SpaceItem.toJson))) =
          some body := by
        apply list?_docOf
        intro item hitem
        refine ih (fun s hs => hspans s (List.mem_append_right _ ?_)) ?_
        · exact SpaceItem.mem_allSpans.mpr ⟨item, hitem, hs⟩
        · exact itemsDepth_le_iff.mp hdepths _ (List.mem_map_of_mem hitem)
      have hspan := Span.nullable?_docOf fun s hs =>
        hspans s (List.mem_append_left _ (Option.mem_toList.mpr hs))
      rw [SpaceItem.ofDoc?, SpaceItem.toJson, SpaceItem.listJson_eq_map,
        choice?_docOf rfl (by simp) ⟨by simp [Namespace.fieldNames], by simp⟩]
      simp [List.lookup_cons, hbody, hspan]

/-! ## Monitors -/

theorem Occurrence.plainChoice?_docOf (o : Occurrence) :
    plainChoice? ["INVOKE", "RETURN", "EXCEPTION", "TIMELAPSE", "CHANGE"] (docOf (.str o.name)) =
      some o.name := by
  cases o <;> rfl

theorem Occurrence.ofName?_name (o : Occurrence) : Occurrence.ofName? o.name = some o := by
  cases o <;> rfl

theorem Emitter.toJson_isWhole (e : Emitter) : e.toJson.isWhole := by
  rcases e with cron | ⟨occurrence, emitter, _ | specifier⟩
  · rfl
  · simp [Emitter.toJson, isWhole, areWholeFields, emitter.toJson_isWhole]
  · simp [Emitter.toJson, isWhole, areWholeFields, emitter.toJson_isWhole,
      specifier.toJson_isWhole]

theorem Emitter.ofDoc?_docOf (e : Emitter) {n : Nat} (h : e.toJson.depth ≤ n) :
    Emitter.ofDoc? n (docOf e.toJson) = some e := by
  cases e with
  | periodic cron =>
    rw [Emitter.ofDoc?, Emitter.toJson, choice?_docOf rfl (by simp) ⟨by simp, by simp⟩]
    simp
  | typed occurrence emitter specifier =>
    simp only [Emitter.toJson, depth, fieldsDepth] at h
    have hemitter : emitter.toJson.depth ≤ n := by omega
    have hspecifier : nullable? (Specifier.ofDoc? true n)
        (docOf ((specifier.map Specifier.toJson).getD .null)) = some specifier := by
      apply nullable?_docOf (Specifier.ofDoc?_null true n)
      rintro node rfl
      rw [Option.map_some, Option.getD_some] at h
      exact node.ofDoc?_docOf true (by omega)
    rw [Emitter.ofDoc?, Emitter.toJson, choice?_docOf rfl (by simp) ⟨by simp, by simp⟩]
    simp [List.lookup_cons, occurrence.plainChoice?_docOf, occurrence.ofName?_name,
      emitter.ofDoc?_docOf true hemitter, hspecifier]

theorem HandlerDecl.param?_docOf (name type : String) :
    HandlerDecl.param? (docOf (.obj [("name", .str name), ("typ", .str type)])) =
      some (name, type) := by
  rw [HandlerDecl.param?, record?_docOf ⟨by simp, by simp⟩]
  simp [List.lookup_cons]

theorem codeBlock?_docOf (source : String) :
    codeBlock? (docOf (.obj [("source", .str source)])) = some source := by
  rw [codeBlock?, record?_docOf ⟨by simp, by simp⟩]
  simp

theorem using?_docOf (name : String) : using? (docOf (.obj [("name", .str name)])) = some name := by
  rw [using?, record?_docOf ⟨by simp, by simp⟩]
  simp

/-- The span of a statement of a monitor, if it has one. -/
def MonitorItem.span? : MonitorItem → Option Span
  | .event decl => decl.span
  | .handler decl => decl.span
  | _ => none

theorem MonitorItem.toJson_isWhole {item : MonitorItem} (h : ∀ s ∈ item.span?, s.IsWord) :
    item.toJson.isWhole := by
  rcases item with decl | decl | decl | source
  · simpa [MonitorItem.toJson, isWhole, areWholeFields] using decl.fields_isWhole
  · have hspan : (Span.optionJson decl.span).isWhole := Span.optionJson_isWhole h
    simp [MonitorItem.toJson, isWhole, areWholeFields, decl.emitter.toJson_isWhole, hspan]
  · have hspan : (Span.optionJson decl.span).isWhole := Span.optionJson_isWhole h
    simp [MonitorItem.toJson, isWhole, areWholeFields, isWhole_ofText?, hspan]
  · rfl

theorem MonitorItem.ofDoc?_docOf {item : MonitorItem} {n : Nat}
    (hspans : ∀ s ∈ item.span?, s.IsWord) (h : item.toJson.depth ≤ n) :
    MonitorItem.ofDoc? n (docOf item.toJson) = some item := by
  rcases item with decl | decl | decl | source
  · have hdepth : decl.initializer.toJson.depth ≤ n := by
      simp only [MonitorItem.toJson, Variable.fields, depth, fieldsDepth] at h
      omega
    rw [MonitorItem.ofDoc?, MonitorItem.toJson, choice?_docOf rfl (by simp [Variable.fields])
      ⟨by simp [Variable.fields, Variable.fieldNames], by simp [Variable.fields]⟩]
    simp [decl.ofFields?_written hdepth]
  · have hdepth : decl.emitter.toJson.depth ≤ n := by
      simp only [MonitorItem.toJson, depth, fieldsDepth] at h
      omega
    have hspan : nullable? Span.ofDoc? (docOf (Span.optionJson decl.span)) = some decl.span :=
      Span.nullable?_docOf hspans
    rw [MonitorItem.ofDoc?, MonitorItem.toJson, choice?_docOf rfl (by simp) ⟨by simp, by simp⟩]
    simp [List.lookup_cons, decl.emitter.ofDoc?_docOf hdepth, hspan]
  · have hspan : nullable? Span.ofDoc? (docOf (Span.optionJson decl.span)) = some decl.span :=
      Span.nullable?_docOf hspans
    rw [MonitorItem.ofDoc?, MonitorItem.toJson, choice?_docOf rfl (by simp) ⟨by simp, by simp⟩]
    simp [List.lookup_cons, HandlerDecl.param?_docOf, codeBlock?_docOf, hspan]
  · rw [MonitorItem.ofDoc?, MonitorItem.toJson, choice?_docOf rfl (by simp) ⟨by simp, by simp⟩]
    simp

/-! ## Units -/

/-- The spans of a declaration and of all that stands in it. -/
def Declaration.spans : Declaration → List Span
  | .monitor decl => decl.span.toList ++ decl.body.filterMap MonitorItem.span?
  | .space decl => decl.span.toList ++ SpaceItem.allSpans decl.body

/-- The spans of a unit. -/
def SourceUnit.spans (unit : SourceUnit) : List Span :=
  unit.declarations.flatMap Declaration.spans

theorem Monitor.span_of_mem {decl : Monitor} {item : MonitorItem} (hitem : item ∈ decl.body)
    {s : Span} (hs : s ∈ item.span?) : s ∈ (Declaration.monitor decl).spans :=
  List.mem_append_right _ (List.mem_filterMap.mpr ⟨item, hitem, hs⟩)

theorem Declaration.toJson_isWhole {decl : Declaration} (h : ∀ s ∈ decl.spans, s.IsWord) :
    decl.toJson.isWhole := by
  cases decl with
  | monitor decl =>
    have hspan : (Span.optionJson decl.span).isWhole := Span.optionJson_isWhole fun s hs =>
      h s (List.mem_append_left _ (Option.mem_toList.mpr hs))
    have husings : areWhole (decl.usings.map fun name => .obj [("name", .str name)]) :=
      areWhole_map fun _ _ => rfl
    have hbody : areWhole (decl.body.map MonitorItem.toJson) := areWhole_map fun item hitem =>
      MonitorItem.toJson_isWhole fun s hs => h s (Monitor.span_of_mem hitem hs)
    simp [Declaration.toJson, isWhole, areWholeFields, hspan, husings, hbody]
  | space decl =>
    have hspan : (Span.optionJson decl.span).isWhole := Span.optionJson_isWhole fun s hs =>
      h s (List.mem_append_left _ (Option.mem_toList.mpr hs))
    have hbody : areWhole (SpaceItem.listJson decl.body) := SpaceItem.listJson_areWhole fun s hs =>
      h s (List.mem_append_right _ hs)
    simp [Declaration.toJson, isWhole, areWholeFields, hspan, hbody]

/-- A declaration is read back with as many steps as its containers are deep. -/
theorem Declaration.ofDoc?_docOf {decl : Declaration} {n : Nat}
    (hspans : ∀ s ∈ decl.spans, s.IsWord) (h : decl.toJson.depth ≤ n) :
    Declaration.ofDoc? n (docOf decl.toJson) = some decl := by
  have hsound : (docOf decl.toJson).isSound n = true :=
    isSound_docOf (Declaration.toJson_isWhole hspans) h
  rw [Declaration.ofDoc?, guard_eq_some hsound]
  cases decl with
  | monitor decl =>
    simp only [Declaration.toJson, depth, fieldsDepth] at h
    have husings : list? using? (docOf (.arr (decl.usings.map fun name =>
        .obj [("name", .str name)]))) = some decl.usings :=
      list?_docOf fun name _ => using?_docOf name
    have hdepths : itemsDepth (decl.body.map MonitorItem.toJson) ≤ n := by omega
    have hbody : list? (MonitorItem.ofDoc? n) (docOf (.arr (decl.body.map MonitorItem.toJson))) =
        some decl.body := by
      refine list?_docOf fun item hitem => MonitorItem.ofDoc?_docOf ?_ ?_
      · exact fun s hs => hspans s (Monitor.span_of_mem hitem hs)
      · exact itemsDepth_le_iff.mp hdepths _ (List.mem_map_of_mem hitem)
    have hspan := Span.nullable?_docOf fun s hs =>
      hspans s (List.mem_append_left _ (Option.mem_toList.mpr hs))
    rw [Declaration.toJson, choice?_docOf rfl (by simp) ⟨by simp, by simp⟩]
    simp [List.lookup_cons, husings, hbody, hspan]
  | space decl =>
    simp only [Declaration.toJson, SpaceItem.listJson_eq_map, depth, fieldsDepth] at h
    have hdepths : itemsDepth (decl.body.map SpaceItem.toJson) ≤ n := by omega
    have hbody : list? (SpaceItem.ofDoc? n) (docOf (.arr (decl.body.map SpaceItem.toJson))) =
        some decl.body := by
      refine list?_docOf fun item hitem => SpaceItem.ofDoc?_docOf (fun s hs => ?_) ?_
      · exact hspans s (List.mem_append_right _ (SpaceItem.mem_allSpans.mpr ⟨item, hitem, hs⟩))
      · exact itemsDepth_le_iff.mp hdepths _ (List.mem_map_of_mem hitem)
    have hspan := Span.nullable?_docOf fun s hs =>
      hspans s (List.mem_append_left _ (Option.mem_toList.mpr hs))
    rw [Declaration.toJson, SpaceItem.listJson_eq_map,
      choice?_docOf rfl (by simp) ⟨by simp [Namespace.fieldNames], by simp⟩]
    simp [List.lookup_cons, hbody, hspan]

theorem SourceUnit.toJson_isWhole {unit : SourceUnit} (h : ∀ s ∈ unit.spans, s.IsWord) :
    unit.toJson.isWhole := by
  have hdecls : areWhole (unit.declarations.map Declaration.toJson) :=
    areWhole_map fun decl hdecl =>
      Declaration.toJson_isWhole fun s hs => h s (List.mem_flatMap.mpr ⟨decl, hdecl, hs⟩)
  simp [SourceUnit.toJson, isWhole, areWholeFields, isWhole_ofText?, hdecls]

/-- The document of a unit is read as the unit. -/
theorem SourceUnit.ofDoc?_docOf {unit : SourceUnit} (hspans : ∀ s ∈ unit.spans, s.IsWord)
    (h : unit.toJson.depth ≤ Json.maxDepth) :
    SourceUnit.ofDoc? (docOf unit.toJson) = some unit := by
  have hdecls : list? (Declaration.ofDoc? (Json.maxDepth - 2))
      (docOf (.arr (unit.declarations.map Declaration.toJson))) = some unit.declarations := by
    -- Two containers are open around each declaration.
    have hdepths : itemsDepth (unit.declarations.map Declaration.toJson) ≤ Json.maxDepth - 2 := by
      simp only [SourceUnit.toJson, depth, fieldsDepth] at h
      omega
    refine list?_docOf fun decl hdecl => Declaration.ofDoc?_docOf (fun s hs => ?_) ?_
    · exact hspans s (List.mem_flatMap.mpr ⟨decl, hdecl, hs⟩)
    · exact itemsDepth_le_iff.mp hdepths _ (List.mem_map_of_mem hdecl)
  rw [SourceUnit.ofDoc?, SourceUnit.toJson, record?_docOf ⟨by simp, by simp⟩]
  simp [List.lookup_cons, hdecls]

/-! ## The law -/

/-- A unit is written as text, on one line or over many. Where the numbers of its spans are words
and its containers are nested no deeper than the reader goes, just this unit is read from either
text, whatever the path is called. -/
theorem a_written_unit_is_read_back {unit : SourceUnit} (hspans : ∀ s ∈ unit.spans, s.IsWord)
    (hdepth : unit.toJson.depth ≤ Json.maxDepth) (path : String) :
    ∀ text ∈ [unit.toJson.compact, unit.toJson.pretty],
      Compilation.readUnit path (some text) = .ok unit := by
  intro text htext
  have hdoc : Doc.ofText? text = some (docOf unit.toJson) :=
    ofText?_text_of_isWhole (SourceUnit.toJson_isWhole hspans) text htext
  have hread : SourceUnit.ofText? text = some unit := by
    rw [SourceUnit.ofText?, hdoc, Option.bind_some, SourceUnit.ofDoc?_docOf hspans hdepth]
  rw [Compilation.readUnit, hread]

/-- A unit with every kind of node, the greatest line that a span can tell, and names that have to
be escaped. -/
def mixedUnit : SourceUnit where
  package := none
  declarations := [
    .space ⟨"cpu \\ \"load\"", [
      .variable ⟨"load", some "f64", .literal (.number "1.50"), true⟩,
      .space "limits\n" [
        .variable ⟨"max", none, .literal .null, false⟩,
        .space "\u0001" [] none] (some ⟨"", 18446744073709551615, 0, 0, 1⟩)],
      some ⟨"demo.mon", 1, 2, 3, 4⟩⟩,
    .monitor ⟨"Pérf", ["cpu", ""], [
      .variable ⟨"limit", none,
        .member (.member (.root "a" (some "A")) "b" none) "c" (some ""), true⟩,
      .event ⟨"tick", .periodic "* * * * *", none⟩,
      .event ⟨"calls", .typed .timeLapse (.source "f(\"x\")") none, some ⟨"", 0, 0, 0, 0⟩⟩,
      .event ⟨"hot", .typed .change (.chain ["cpu", "load"]) (some (.node .or
        (.leaf .above (.literal (.string "90")) true)
        (.node .and (.leaf .below (.literal (.bool true)) false)
          (.leaf .equal (.literal (.number "-1e3")) false)))), none⟩,
      .handler ⟨"onTick", "e", "IntervalEvent", "note(e);", some "ticks", none⟩,
      .code "tick.subscribe(onTick);"], none⟩]

theorem a_mixed_unit_is_read_back :
    (∀ s ∈ mixedUnit.spans, s.IsWord) ∧ mixedUnit.toJson.depth ≤ Json.maxDepth ∧
      ∀ text ∈ [mixedUnit.toJson.compact, mixedUnit.toJson.pretty],
        Compilation.readUnit "demo.json" (some text) = .ok mixedUnit := by
  have hspans : ∀ s ∈ mixedUnit.spans, s.IsWord := by
    have hlarge : Number.wordLimit = 18446744073709551616 := rfl
    have hall : mixedUnit.spans = [⟨"demo.mon", 1, 2, 3, 4⟩, ⟨"", 18446744073709551615, 0, 0, 1⟩,
      ⟨"", 0, 0, 0, 0⟩] := rfl
    rw [hall]
    simp only [List.mem_cons, List.not_mem_nil, or_false]
    rintro s (rfl | rfl | rfl) <;> constructor <;> simp [hlarge]
  have hdepth : mixedUnit.toJson.depth ≤ Json.maxDepth := by decide +kernel
  exact ⟨hspans, hdepth, a_written_unit_is_read_back hspans hdepth "demo.json"⟩

end Watchtower.Source
