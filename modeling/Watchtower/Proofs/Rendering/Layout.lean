-- The layout of rendered modules. A module is a row of items, each printed from its own part of the
-- blueprint. Which structs and impls there are, and what identifiers their members have, is told by
-- the rosters of the blueprint, from the first item to the last.
import Watchtower.Proofs.Rendering.Items

namespace Watchtower.Rendering

/-! ## Fields and methods -/

/-- The identifiers of fields. -/
def fieldIdents (fields : List Field) : List String :=
  fields.map fun f => Naming.ident f.name

/-- The identifiers of methods. -/
def methodIdents (methods : List Method) : List String :=
  methods.map fun m => Naming.ident m.name

def fieldItem (visibility : String) (f : Field) : FieldItem :=
  ⟨visibility, Naming.ident f.name, ": " ++ fieldType f ++ ","⟩

theorem fieldLines_eq (visibility : String) (fields : List Field) :
    fieldLines visibility fields = (fields.map (fieldItem visibility)).map FieldItem.line := by
  simp [fieldLines, fieldItem, FieldItem.line, ← String.append_assoc]

theorem fieldItem_isSound {visibility : String} (h : visibility ∈ visibilities)
    (fields : List Field) : ∀ f ∈ fields.map (fieldItem visibility), f.isSound := by
  intro f hf
  obtain ⟨field, -, rfl⟩ := List.mem_map.mp hf
  simp [FieldItem.isSound, fieldItem, h]

theorem fieldItem_idents (visibility : String) (fields : List Field) :
    (fields.map (fieldItem visibility)).map (·.ident) = fieldIdents fields := by
  simp [fieldItem, fieldIdents]

theorem initLines_indented {owner : Blueprint} {fields : List Field} {lines : List String}
    (h : initLines owner fields = .ok lines) : ∀ line ∈ lines, indented 8 line := by
  intro line hline
  obtain ⟨f, -, hf⟩ := (mem_iff_of_mapM_eq_ok h).mp hline
  obtain ⟨init, -, hok⟩ := bind_eq_ok.mp hf
  cases hok
  simp [indented]

/-- A method with nothing but empty lines above it is sound where its body is indented. -/
theorem method_isSound {m : MethodItem} (habove : ∀ line ∈ m.above, line = "")
    (hvisibility : m.visibility ∈ visibilities) (hrest : m.rest.toList.head? = some '(')
    (hbody : ∀ line ∈ m.body, indented 8 line) : m.isSound := by
  have hempty : ∀ line ∈ m.above, line.isEmpty || Text.startsWith line "    ///" := by
    intro line hline
    rw [habove line hline]
    rfl
  simp only [MethodItem.isSound, Bool.and_eq_true, List.all_eq_true, beq_iff_eq]
  exact ⟨⟨⟨by simpa using hvisibility, hrest⟩, hempty⟩, hbody⟩

/-! ## Rosters -/

/-- The rosters of a type with these fields that has nothing but a constructor. -/
def plainRosters (type : String) (fields : List String) : List Roster :=
  [.fields type fields, .methods type ["new"]]

/-- The rosters of a predicate. -/
def predicateRosters (b : Blueprint) : List Roster :=
  plainRosters b.name (fieldIdents b.fields)

/-- The rosters of the type of a member of a monitor. A change event comes with its predicates. -/
def nestedRosters (b : Blueprint) : List Roster :=
  match b.kind with
  | .probeEvent .. => plainRosters b.name ["source"]
  | .changeEvent .. =>
    plainRosters b.name (fieldIdents b.fields ++ ["source"]) ++ b.nested.flatMap predicateRosters
  | .intervalJob _ => plainRosters b.name ["monitor"]
  | .observerAdapter .. => plainRosters b.name ["monitor", "policy"]
  | .predicate => predicateRosters b
  | _ => []

/-- The rosters of the module of a monitor. -/
def monitorRosters (b : Blueprint) : List Roster :=
  [.fields b.name ("core" :: "context" :: fieldIdents (b.fields.filter (!·.shared))),
    .methods b.name ("new" :: ((sharedSpaces b).map Naming.ident
      ++ methodIdents (b.methods.filter (!·.overrides))))]
    ++ b.nested.flatMap nestedRosters

/-- The rosters of a storage. -/
def storageRosters (b : Blueprint) : List Roster :=
  [.fields b.name [], .methods b.name ["variables"]]

mutual

/-- The rosters of a proxy and its children, given the identifier of the field that leads to the
root. -/
def proxyRosters (link : String) : Blueprint → List Roster
  | ⟨name, _, _, _, fields, _, methods, nested⟩ =>
    [.fields name (link :: fieldIdents fields),
      .methods name ("new" :: "connection" :: methodIdents methods)] ++ childRosters nested

/-- The rosters of the proxies among some blueprints. -/
def childRosters : List Blueprint → List Roster
  | [] => []
  | b :: rest =>
    (match b.kind with
      | .namespaceProxy .. => proxyRosters "root" b
      | _ => []) ++ childRosters rest

end

theorem childRosters_cons_of_proxy {b : Blueprint} (rest : List Blueprint) {root path : String}
    (h : b.kind = .namespaceProxy root path) :
    childRosters (b :: rest) = proxyRosters "root" b ++ childRosters rest := by
  simp only [childRosters, h]

theorem childRosters_cons_of_other {b : Blueprint} (rest : List Blueprint)
    (h : ∀ root path, b.kind ≠ .namespaceProxy root path) :
    childRosters (b :: rest) = childRosters rest := by
  rw [childRosters]
  split
  · rename_i root path hproxy
    exact absurd hproxy (h root path)
  · rfl

/-- The rosters of the module of a root namespace. -/
def spaceRosters (b : Blueprint) : List Roster :=
  (b.nested.find? (·.kind == .namespaceStorage)).toList.flatMap storageRosters
    ++ proxyRosters "connection" b

/-- The rosters of the module of a blueprint, from the first item to the last. -/
def rosters (b : Blueprint) : List Roster :=
  match b.kind with
  | .monitor => monitorRosters b
  | .namespaceProxy .. => spaceRosters b
  | _ => []

/-! ## The types of the members of a monitor -/

theorem docLines_laidOut (doc : Option String) : IsLaidOut (docLines doc) [] := by
  cases doc with
  | none => exact .nil
  | some doc =>
    refine .of_loose fun line hline => ?_
    obtain ⟨text, -, rfl⟩ := List.mem_map.mp hline
    exact comment_isSound (startsWith_append rfl _)

/-- The constructor of an event: what it does first, the fields that it fills, and what it does
with the event. -/
def eventConstructorItem (before fields body : List String) : MethodItem where
  ident := "new"
  rest := "(context: &RuntimeContext) -> Arc<Self> \x7b"
  body := before ++ "        let event = Arc::new(Self \x7b"
    :: fields.map (fun field => "            " ++ field ++ ",") ++ "        \x7d);"
    :: body ++ ["        event"]

theorem eventConstructorItem_isSound {before body : List String} (fields : List String)
    (hbefore : ∀ line ∈ before, indented 8 line) (hbody : ∀ line ∈ body, indented 8 line) :
    (eventConstructorItem before fields body).isSound := by
  refine method_isSound nofun (by simp [eventConstructorItem, visibilities]) (head?_text '(' _) ?_
  simp only [eventConstructorItem, List.mem_append, List.mem_cons, List.mem_map,
    List.not_mem_nil, or_false]
  rintro line (((hline | rfl | ⟨field, -, rfl⟩) | rfl | hline) | rfl)
  · exact hbefore line hline
  · exact indented_text rfl
  · rw [String.append_assoc]
    exact indented_text_append rfl _
  · exact indented_text rfl
  · exact hbody line hline
  · exact indented_text rfl

/-- The constructor of an event is all that its impl has. -/
theorem eventConstructor_laidOut {b : Blueprint} {before fields lines : List String}
    (hbefore : ∀ line ∈ before, indented 8 line)
    (h : eventConstructor b before fields = .ok lines) :
    IsLaidOut lines [.methods b.name ["new"]] := by
  obtain ⟨body, hbody, hok⟩ := bind_eq_ok.mp h
  cases hok
  have hindented := bodyLines_indented (Nat.le_refl 8) hbody
  have himpl : IsLaidOut (Item.inherent b.name [eventConstructorItem before fields body]).lines
      [.methods b.name ["new"]] :=
    .inherent_singleton (eventConstructorItem_isSound fields hbefore hindented)
  simpa [Item.lines, MethodItem.lines, eventConstructorItem] using himpl.append .blank

theorem delegation_laidOut (type source : String) : IsLaidOut (delegation type source) [] := by
  have hderef : IsLaidOut (Item.implement "std::ops::Deref" type [
      "    type Target = " ++ source ++ ";", "", "    fn deref(&self) -> &" ++ source ++ " \x7b",
      "        &self.source", "    \x7d"]).lines [] := by
    refine .implement (by simp [traits]) ?_
    simp only [List.forall_mem_cons, String.append_assoc]
    refine ⟨indented_text_append rfl _, rfl, indented_text_append rfl _, ?_⟩
    and_intros
    all_goals first | exact indented_text rfl | exact nofun
  have hpausable : IsLaidOut (Item.implement "Pausable" type [
      "    fn pause(&self) \x7b", "        self.source.pause();", "    \x7d", "",
      "    fn resume(&self) \x7b", "        self.source.resume();", "    \x7d", "",
      "    fn is_paused(&self) -> bool \x7b", "        self.source.is_paused()",
      "    \x7d"]).lines [] := by
    refine .implement (by simp [traits]) ?_
    simp only [List.forall_mem_cons]
    and_intros
    all_goals first | exact indented_text rfl | exact nofun
  have hevent : IsLaidOut (Item.implement "MonitorEvent" type [
      "    fn name(&self) -> &str \x7b", "        self.source.name()", "    \x7d", "",
      "    fn event_type(&self) -> EventType \x7b", "        self.source.event_type()",
      "    \x7d", "", "    fn emitter(&self) -> Emitter \x7b", "        self.source.emitter()",
      "    \x7d", "", "    fn probe(&self) -> Option<Arc<dyn Probe>> \x7b",
      "        self.source.probe()", "    \x7d", "",
      "    fn consumer(&self) -> Option<&EventConsumer> \x7b", "        self.source.consumer()",
      "    \x7d", "", "    fn subject(&self) -> Option<&Subject> \x7b",
      "        self.source.subject()", "    \x7d"]).lines [] := by
    refine .implement (by simp [traits]) ?_
    simp only [List.forall_mem_cons]
    and_intros
    all_goals first | exact indented_text rfl | exact nofun
  have hall := ((hderef.append .blank).append (hpausable.append .blank)).append hevent
  simpa [delegation, Item.lines] using hall

theorem probeEventLines_laidOut {b : Blueprint} {payload : EventKind} {emitter : String}
    {lines : List String} (h : probeEventLines b payload emitter = .ok lines) :
    IsLaidOut lines (plainRosters b.name ["source"]) := by
  obtain ⟨constructor, hconstructor, hok⟩ := bind_eq_ok.mp h
  cases hok
  have hstruct : IsLaidOut (Item.struct b.name [⟨"", "source", ": ProbeEventSource,"⟩]).lines
      [.fields b.name ["source"]] :=
    .struct (by simp [FieldItem.isSound, visibilities])
  have hall := (((docLines_laidOut b.doc).append hstruct).append .blank).append
    ((eventConstructor_laidOut (by simp) hconstructor).append
      (delegation_laidOut b.name "ProbeEventSource"))
  simpa [Item.lines, FieldItem.line, plainRosters] using hall

/-- A method of a trait is indented with all that is in it. -/
theorem indented_method {head : String} {body : List String} (hhead : indented 4 head)
    (hbody : ∀ line ∈ body, indented 4 line) :
    ∀ line ∈ head :: body ++ ["    \x7d"], indented 4 line := by
  simp only [List.cons_append, List.mem_cons, List.mem_append, List.not_mem_nil, or_false]
  rintro line (rfl | hline | rfl)
  · exact hhead
  · exact hbody line hline
  · simp [indented]

theorem testLines_laidOut {b : Blueprint} {lines : List String} (h : testLines b = .ok lines) :
    IsLaidOut lines [] := by
  unfold testLines at h
  split at h
  · cases h
    exact .nil
  · rename_i test htest
    obtain ⟨body, hbody, hok⟩ := bind_eq_ok.mp h
    cases hok
    have hindented := bodyLines_indented (show 4 ≤ 4 * 2 by omega) hbody
    have himpl : IsLaidOut (Item.implement "Predicate" b.name ((
        "    fn test(&self, " ++ (test.params.head?.map (·.1)).getD "event"
          ++ ": &ChangeEvent) -> Result<bool> \x7b") :: body ++ ["    \x7d"])).lines [] :=
      .implement (by simp [traits]) (indented_method (by simp [indented]) hindented)
    simpa [Item.lines, ← String.append_assoc] using himpl

theorem equalityLines_laidOut {b : Blueprint} {lines : List String}
    (h : equalityLines b = .ok lines) : IsLaidOut lines [] := by
  unfold equalityLines at h
  split at h
  · cases h
    exact .nil
  · obtain ⟨body, hbody, hok⟩ := bind_eq_ok.mp h
    cases hok
    have hindented := bodyLines_indented (show 4 ≤ 4 * 2 by omega) hbody
    have himpl : IsLaidOut (Item.implement "PartialEq" b.name
        ("    fn eq(&self, other: &Self) -> bool \x7b" :: body ++ ["    \x7d"])).lines [] :=
      .implement (by simp [traits]) (indented_method (by simp [indented]) hindented)
    simpa [Item.lines] using IsLaidOut.blank.append himpl

/-- The constructor of a predicate, with the lines that fill its fields. -/
def predicateConstructorItem (inits : List String) : MethodItem where
  ident := "new"
  rest := "() -> Arc<Self> \x7b"
  body := "        Arc::new(Self \x7b" :: inits ++ ["        \x7d)"]

theorem predicateConstructorItem_isSound {inits : List String}
    (hinits : ∀ line ∈ inits, indented 8 line) : (predicateConstructorItem inits).isSound := by
  refine method_isSound nofun (by simp [predicateConstructorItem, visibilities])
    (head?_text '(' _) ?_
  simp only [predicateConstructorItem, List.cons_append, List.mem_append, List.mem_cons,
    List.not_mem_nil, or_false]
  rintro line (rfl | hline | rfl)
  · exact indented_text rfl
  · exact hinits line hline
  · exact indented_text rfl

theorem predicateLines_laidOut {b : Blueprint} {lines : List String}
    (h : predicateLines b = .ok lines) : IsLaidOut lines (predicateRosters b) := by
  obtain ⟨inits, hinits, h⟩ := bind_eq_ok.mp h
  obtain ⟨test, htest, h⟩ := bind_eq_ok.mp h
  obtain ⟨equality, hequality, hok⟩ := bind_eq_ok.mp h
  cases hok
  have hstruct : IsLaidOut (Item.struct b.name (b.fields.map (fieldItem ""))).lines
      [.fields b.name (fieldIdents b.fields)] := by
    rw [← fieldItem_idents ""]
    exact .struct (fieldItem_isSound (by simp [visibilities]) _)
  have himpl : IsLaidOut (Item.inherent b.name [predicateConstructorItem inits]).lines
      [.methods b.name ["new"]] :=
    .inherent_singleton (predicateConstructorItem_isSound (initLines_indented hinits))
  have hall := (((docLines_laidOut b.doc).append hstruct).append .blank).append
    ((himpl.append .blank).append
      ((testLines_laidOut htest).append (equalityLines_laidOut hequality)))
  simpa [Item.lines, MethodItem.lines, predicateConstructorItem, fieldLines_eq, predicateRosters,
    plainRosters] using hall

theorem changeEventLines_laidOut {b : Blueprint} {space path : String} {lines : List String}
    (h : changeEventLines b space path = .ok lines) :
    IsLaidOut lines (plainRosters b.name (fieldIdents b.fields ++ ["source"])
      ++ b.nested.flatMap predicateRosters) := by
  obtain ⟨before, hbefore, h⟩ := bind_eq_ok.mp h
  obtain ⟨constructor, hconstructor, h⟩ := bind_eq_ok.mp h
  obtain ⟨inner, hinner, hok⟩ := bind_eq_ok.mp h
  cases hok
  have hindented : ∀ line ∈ before, indented 8 line := by
    intro line hline
    obtain ⟨f, -, hf⟩ := (mem_iff_of_mapM_eq_ok hbefore).mp hline
    obtain ⟨init, -, hok⟩ := bind_eq_ok.mp hf
    cases hok
    simp [indented]
  have hstruct : IsLaidOut (Item.struct b.name (b.fields.map (fieldItem "") ++
      [⟨"", "source", ": ChangeEventSource,"⟩])).lines
      [.fields b.name (fieldIdents b.fields ++ ["source"])] := by
    have hidents : (b.fields.map (fieldItem "") ++
        [(⟨"", "source", ": ChangeEventSource,"⟩ : FieldItem)]).map (·.ident) =
          fieldIdents b.fields ++ ["source"] := by
      rw [List.map_append, fieldItem_idents]
      rfl
    rw [← hidents]
    refine .struct fun f hf => ?_
    rcases List.mem_append.mp hf with hf | hf
    · exact fieldItem_isSound (by simp [visibilities]) _ f hf
    · rw [List.mem_singleton.mp hf]
      simp [FieldItem.isSound, visibilities]
  have hpredicates := IsLaidOut.of_mapM hinner fun p _ _ => predicateLines_laidOut
  have hall := ((((docLines_laidOut b.doc).append hstruct).append .blank).append
    ((eventConstructor_laidOut hindented hconstructor).append
      (delegation_laidOut b.name "ChangeEventSource"))).append hpredicates
  simpa [Item.lines, FieldItem.line, fieldLines_eq, plainRosters] using hall

/-- The link of a job or an observer to its monitor. -/
def monitorLink (monitor : String) : FieldItem :=
  ⟨"", "monitor", ": Weak<" ++ monitor ++ ">,"⟩

theorem monitorLink_isSound (monitor : String) : (monitorLink monitor).isSound :=
  field_isSound (by simp [monitorLink, visibilities])
    (head?_append (head?_append (head?_text ':' _) _) _)

/-- The constructor of a job or an observer takes the link to its monitor, and what else its
parameters name, and keeps what is named. -/
def linkedConstructorItem (monitor params kept : String) : MethodItem where
  ident := "new"
  rest := "(monitor: Weak<" ++ monitor ++ params
  body := [kept]

theorem linkedConstructorItem_isSound (monitor params : String) {kept : String}
    (hkept : indented 8 kept) : (linkedConstructorItem monitor params kept).isSound :=
  method_isSound nofun (by simp [linkedConstructorItem, visibilities])
    (head?_append (head?_append (head?_text '(' _) _) _) (List.forall_mem_singleton.mpr hkept)

theorem jobLines_laidOut (monitor : String) (b : Blueprint) (handler : String) :
    IsLaidOut (jobLines monitor b handler) (plainRosters b.name ["monitor"]) := by
  have hstruct : IsLaidOut (Item.struct b.name [monitorLink monitor]).lines
      [.fields b.name ["monitor"]] :=
    .struct (List.forall_mem_singleton.mpr (monitorLink_isSound monitor))
  have himpl : IsLaidOut (Item.inherent b.name [linkedConstructorItem monitor
      ">) -> Arc<Self> \x7b" "        Arc::new(Self \x7b monitor \x7d)"]).lines
      [.methods b.name ["new"]] :=
    .inherent_singleton (linkedConstructorItem_isSound _ _ (indented_text rfl))
  have htrait : IsLaidOut (Item.implement "Job" b.name [
      "    fn execute(&self, context: &JobContext) -> Result<()> \x7b",
      "        let expression = context.get_string(EXPRESSION_KEY)?;",
      "        let event = IntervalEvent::new(expression);",
      "        match self.monitor.upgrade() \x7b",
      "            Some(monitor) => monitor." ++ Naming.ident handler ++ "(&event),",
      "            None => Ok(()),",
      "        \x7d",
      "    \x7d"]).lines [] := by
    refine .implement (by simp [traits]) ?_
    simp only [List.forall_mem_cons, String.append_assoc]
    exact ⟨indented_text rfl, indented_text rfl, indented_text rfl, indented_text rfl,
      indented_text_append rfl _, indented_text rfl, indented_text rfl, indented_text rfl, nofun⟩
  have hall := ((((docLines_laidOut b.doc).append hstruct).append .blank).append himpl).append
    (IsLaidOut.blank.append htrait)
  simpa [jobLines, Item.lines, FieldItem.line, MethodItem.lines, monitorLink,
    linkedConstructorItem, plainRosters, ← String.append_assoc] using hall

theorem observerLines_laidOut (monitor : String) (b : Blueprint) (payload : EventKind)
    (handler : String) : IsLaidOut (observerLines monitor b payload handler)
      (plainRosters b.name ["monitor", "policy"]) := by
  have hpolicy : FieldItem.isSound ⟨"", "policy", ": Arc<dyn FailurePolicy>,"⟩ :=
    field_isSound (by simp [visibilities]) (head?_text ':' _)
  have hstruct : IsLaidOut (Item.struct b.name
      [monitorLink monitor, ⟨"", "policy", ": Arc<dyn FailurePolicy>,"⟩]).lines
      [.fields b.name ["monitor", "policy"]] :=
    .struct (by simpa using ⟨monitorLink_isSound monitor, hpolicy⟩)
  have himpl : IsLaidOut (Item.inherent b.name [linkedConstructorItem monitor
      ">, policy: Arc<dyn FailurePolicy>) -> Arc<Self> \x7b"
      "        Arc::new(Self \x7b monitor, policy \x7d)"]).lines [.methods b.name ["new"]] :=
    .inherent_singleton (linkedConstructorItem_isSound _ _ (indented_text rfl))
  have htrait : IsLaidOut (Item.implement "Observer" b.name [
      "    fn notify(&self, event: &Event) \x7b",
      "        let Event::" ++ payload.name ++ "(payload) = event else \x7b",
      "            return;",
      "        \x7d;",
      "        let Some(monitor) = self.monitor.upgrade() else \x7b",
      "            return;",
      "        \x7d;",
      "        guarded(self.policy.as_ref(), " ++ Text.quoted b.qualifiedName ++ ", || monitor."
        ++ Naming.ident handler ++ "(payload));",
      "    \x7d"]).lines [] := by
    refine .implement (by simp [traits]) ?_
    simp only [List.forall_mem_cons, String.append_assoc]
    exact ⟨indented_text rfl, indented_text_append rfl _, indented_text rfl, indented_text rfl,
      indented_text rfl, indented_text rfl, indented_text rfl, indented_text_append rfl _,
      indented_text rfl, nofun⟩
  have hall := ((((docLines_laidOut b.doc).append hstruct).append .blank).append himpl).append
    (IsLaidOut.blank.append htrait)
  simpa [observerLines, Item.lines, FieldItem.line, MethodItem.lines, monitorLink,
    linkedConstructorItem, plainRosters, ← String.append_assoc] using hall

/-- The type of a member of a monitor is laid out. -/
theorem nestedLines_laidOut {monitor : String} {b : Blueprint} {lines : List String}
    (h : nestedLines monitor b = .ok lines) : IsLaidOut lines (nestedRosters b) := by
  unfold nestedLines at h
  split at h
  · rename_i hkind
    simp only [nestedRosters, hkind]
    exact probeEventLines_laidOut h
  · rename_i hkind
    simp only [nestedRosters, hkind]
    exact changeEventLines_laidOut h
  · rename_i hkind
    cases h
    simp only [nestedRosters, hkind]
    exact jobLines_laidOut monitor b _
  · rename_i hkind
    cases h
    simp only [nestedRosters, hkind]
    exact observerLines_laidOut monitor b _ _
  · rename_i hkind
    simp only [nestedRosters, hkind]
    exact predicateLines_laidOut h
  · cases h

/-! ## Methods -/

theorem methodLines_item {m : Method} {lines : List String} (h : methodLines m = .ok lines) :
    ∃ item : MethodItem, item.ident = Naming.ident m.name ∧ item.isSound ∧
      "" :: lines = item.lines := by
  obtain ⟨body, hbody, hok⟩ := bind_eq_ok.mp h
  cases hok
  have hindented := bodyLines_indented (Nat.le_refl 8) hbody
  refine ⟨⟨[""], "pub ", Naming.ident m.name,
    "(&self" ++ Text.join "" (m.params.map fun param =>
      ", " ++ Naming.ident param.1 ++ ": " ++ paramType param.2) ++ ")" ++ returnText m ++ " \x7b",
    body ++ if m.propagates && !(m.body.getLast?.any isTail) then ["        Ok(())"] else []⟩,
    rfl, ?_, ?_⟩
  · refine method_isSound (by simp) (by simp [visibilities]) (by simp) ?_
    intro line hline
    rcases List.mem_append.mp hline with hline | hline
    · exact hindented line hline
    · split at hline
      · rw [List.mem_singleton.mp hline]
        simp [indented]
      · cases hline
  · simp [MethodItem.lines, ← String.append_assoc]

/-- Methods are laid out one after the other, each below an empty line. -/
theorem methodLines_items {methods : List Method} {parts : List (List String)}
    (h : methods.mapM methodLines = .ok parts) : ∃ items : List MethodItem,
      items.map (·.ident) = methodIdents methods ∧ (∀ item ∈ items, item.isSound) ∧
        parts.flatMap ("" :: ·) = items.flatMap MethodItem.lines := by
  induction methods generalizing parts with
  | nil =>
    cases h
    exact ⟨[], rfl, by simp, rfl⟩
  | cons m rest ih =>
    rw [List.mapM_cons] at h
    obtain ⟨lines, hlines, hrest⟩ := bind_eq_ok.mp h
    obtain ⟨others, hothers, hok⟩ := bind_eq_ok.mp hrest
    cases hok
    obtain ⟨item, hident, hsound, heq⟩ := methodLines_item hlines
    obtain ⟨items, hidents, hsounds, heqs⟩ := ih hothers
    refine ⟨item :: items, ?_, ?_, ?_⟩
    · simp [methodIdents, hident, hidents]
    · simpa [hsound] using hsounds
    · rw [List.flatMap_cons, List.flatMap_cons, heq, heqs]

/-! ## Monitors -/

theorem monitorHead_laidOut (b : Blueprint) : IsLaidOut (monitorHead b) [] := by
  unfold monitorHead
  refine .of_loose fun line hline => ?_
  simp only [List.mem_append, List.mem_cons, List.mem_map, List.not_mem_nil, or_false] at hline
  rcases hline with ((((rfl | rfl | rfl | rfl | rfl | rfl) | ⟨space, -, rfl⟩) | rfl) |
    ⟨space, -, rfl⟩) | hline
  · exact comment_isSound (startsWith_append (startsWith_append rfl _) _)
  · exact attribute_isSound rfl
  · rfl
  · exact import_isSound rfl
  · rfl
  · exact import_isSound rfl
  · exact import_isSound (startsWith_append (startsWith_append (startsWith_append
      (startsWith_append rfl _) _) _) _)
  · rfl
  · exact constant_isSound (startsWith_append (startsWith_append (startsWith_append
      (startsWith_append rfl _) _) _) _)
  · split at hline
    · cases hline
    · rw [List.mem_singleton.mp hline]
      rfl

/-- The method that gives access to a shared namespace. -/
def accessorItem (space : String) : MethodItem where
  above := ["", "    /// Proxy of namespace `" ++ space ++ "`, bound by `initialize`."]
  ident := Naming.ident space
  rest := "(&self) -> Result<Arc<" ++ Naming.pascal space ++ ">> \x7b"
  body := ["        " ++ Naming.screaming space
    ++ ".get().cloned().ok_or_else(|| Error::Disconnected(" ++ Text.quoted space
    ++ ".to_string()))"]

theorem accessorItem_isSound (space : String) : (accessorItem space).isSound := by
  have habove : ∀ line ∈ (accessorItem space).above,
      line.isEmpty || Text.startsWith line "    ///" := by
    simp [accessorItem, Text.startsWith]
  have hbody : ∀ line ∈ (accessorItem space).body, indented 8 line := by
    simp only [accessorItem, String.append_assoc]
    exact List.forall_mem_singleton.mpr (indented_text_append rfl _)
  have hrest : (accessorItem space).rest.toList.head? = some '(' :=
    head?_append (head?_append (head?_text '(' _) _) _
  simp only [MethodItem.isSound, Bool.and_eq_true, List.all_eq_true, beq_iff_eq]
  exact ⟨⟨⟨by simp [accessorItem, visibilities], hrest⟩, habove⟩, hbody⟩

theorem spaceAccessor_eq : spaceAccessor = fun space => (accessorItem space).lines := by
  funext space
  simp [spaceAccessor, accessorItem, MethodItem.lines, ← String.append_assoc]

/-- The constructor of a monitor: the lines that fill its fields, and those of its body. -/
def monitorConstructorItem (b : Blueprint) (inits body : List String) : MethodItem where
  ident := "new"
  rest := "(context: &RuntimeContext) -> Arc<Self> \x7b"
  body := "        let monitor = Arc::new_cyclic(|this: &Weak<Self>| Self \x7b"
    :: ("            core: MonitorCore::new(" ++ Text.quoted b.qualifiedName ++ "),")
    :: "            context: context.clone()," :: inits ++ "        \x7d);" :: body
    ++ ["        monitor"]

theorem monitorConstructorItem_isSound (b : Blueprint) {inits body : List String}
    (hinits : ∀ line ∈ inits, indented 8 line) (hbody : ∀ line ∈ body, indented 8 line) :
    (monitorConstructorItem b inits body).isSound := by
  refine method_isSound nofun (by simp [monitorConstructorItem, visibilities])
    (head?_text '(' _) ?_
  simp only [monitorConstructorItem, List.cons_append, List.mem_append, List.mem_cons,
    List.not_mem_nil, or_false]
  rintro line (rfl | rfl | rfl | ((hline | rfl | hline) | rfl))
  · exact indented_text rfl
  · rw [String.append_assoc]
    exact indented_text_append rfl _
  · exact indented_text rfl
  · exact hinits line hline
  · exact indented_text rfl
  · exact hbody line hline
  · exact indented_text rfl

/-- The fields of a monitor stand behind those that every monitor has. -/
theorem monitorStruct_laidOut (b : Blueprint) :
    IsLaidOut (Item.struct b.name (⟨"", "core", ": MonitorCore,"⟩ ::
      ⟨"", "context", ": RuntimeContext,"⟩ ::
      (b.fields.filter (!·.shared)).map (fieldItem "pub "))).lines
      [.fields b.name ("core" :: "context" :: fieldIdents (b.fields.filter (!·.shared)))] := by
  rw [← fieldItem_idents "pub "]
  refine .struct ?_
  simp only [List.mem_cons]
  rintro f (rfl | rfl | hf)
  · exact field_isSound (by simp [visibilities]) (head?_text ':' _)
  · exact field_isSound (by simp [visibilities]) (head?_text ':' _)
  · exact fieldItem_isSound (by simp [visibilities]) _ f hf

theorem monitorBody_laidOut {b : Blueprint} {lines : List String} (h : monitorBody b = .ok lines) :
    IsLaidOut lines [
      .fields b.name ("core" :: "context" :: fieldIdents (b.fields.filter (!·.shared))),
      .methods b.name ("new" :: ((sharedSpaces b).map Naming.ident
        ++ methodIdents (b.methods.filter (!·.overrides))))] := by
  obtain ⟨inits, hinits, h⟩ := bind_eq_ok.mp h
  obtain ⟨body, hbody, h⟩ := bind_eq_ok.mp h
  obtain ⟨methods, hmethods, hok⟩ := bind_eq_ok.mp h
  cases hok
  have hnew := monitorConstructorItem_isSound b (initLines_indented hinits)
    (bodyLines_indented (Nat.le_refl 8) hbody)
  obtain ⟨items, hidents, hsounds, hitems⟩ := methodLines_items hmethods
  have hdoc : IsLaidOut (b.doc.toList.map ("/// " ++ ·)) [] := by
    refine .of_loose fun line hline => ?_
    obtain ⟨text, -, rfl⟩ := List.mem_map.mp hline
    exact comment_isSound (startsWith_append rfl _)
  have himpl : IsLaidOut (Item.inherent b.name
      (monitorConstructorItem b inits body :: (sharedSpaces b).map accessorItem ++ items)).lines
      [.methods b.name ("new" :: ((sharedSpaces b).map Naming.ident
        ++ methodIdents (b.methods.filter (!·.overrides))))] := by
    have haccessors : ((sharedSpaces b).map accessorItem).map (·.ident) =
        (sharedSpaces b).map Naming.ident := List.map_map
    rw [← hidents, ← haccessors, ← List.map_append]
    refine .inherent fun m hm => ?_
    simp only [List.cons_append, List.mem_cons, List.mem_append, List.mem_map] at hm
    rcases hm with rfl | ⟨space, -, rfl⟩ | hm
    · exact hnew
    · exact accessorItem_isSound space
    · exact hsounds m hm
  have hall := ((hdoc.append (monitorStruct_laidOut b)).append .blank).append
    (himpl.append .blank)
  simpa [Item.lines, FieldItem.line, MethodItem.lines, monitorConstructorItem, fieldLines_eq,
    hitems, List.flatMap_map, spaceAccessor_eq] using hall

theorem transitionLines_indented {b : Blueprint} {name : String} {lines : List String}
    (h : transitionLines b name = .ok lines) : ∀ line ∈ lines, indented 4 line := by
  unfold transitionLines at h
  split at h
  · cases h
  · obtain ⟨body, hbody, hok⟩ := bind_eq_ok.mp h
    cases hok
    have hindented := bodyLines_indented (show 4 ≤ 4 * 2 by omega) hbody
    simp only [List.cons_append, List.mem_append, List.mem_cons, List.not_mem_nil,
      or_false, List.nil_append]
    rintro line (rfl | rfl | hline | rfl | rfl)
    · rw [String.append_assoc]
      exact indented_text_append rfl _
    · exact indented_text rfl
    · exact hindented line hline
    · exact indented_text rfl
    · rfl

theorem eventsLines_laidOut (b : Blueprint) : IsLaidOut (eventsLines b) [] := by
  have htrait : IsLaidOut (Item.implement "Monitor" b.name (["    fn name(&self) -> &str \x7b",
      "        self.core.name()", "    \x7d", "",
      "    fn events(&self) -> Vec<Arc<dyn MonitorEvent>> \x7b", "        vec!["]
      ++ (b.fields.filter isEvent).map (fun f =>
        "            self." ++ Naming.ident f.name ++ ".clone() as Arc<dyn MonitorEvent>,")
      ++ ["        ]", "    \x7d"])).lines [] := by
    refine .implement (by simp [traits]) ?_
    simp only [List.mem_append, List.mem_cons, List.mem_map, List.not_mem_nil, or_false]
    rintro line (((rfl | rfl | rfl | rfl | rfl | rfl) | ⟨f, -, rfl⟩) | rfl | rfl)
    case inl.inr =>
      rw [String.append_assoc]
      exact indented_text_append rfl _
    all_goals exact indented_text rfl
  simpa [eventsLines, Item.lines] using htrait

/-- The module of a monitor is laid out. -/
theorem monitorLines_laidOut {b : Blueprint} {lines : List String}
    (h : monitorLines b = .ok lines) : IsLaidOut lines (monitorRosters b) := by
  unfold monitorLines at h
  split at h
  · cases h
  obtain ⟨body, hbody, h⟩ := bind_eq_ok.mp h
  obtain ⟨pause, hpause, h⟩ := bind_eq_ok.mp h
  obtain ⟨resume, hresume, h⟩ := bind_eq_ok.mp h
  obtain ⟨nested, hnested, hok⟩ := bind_eq_ok.mp h
  cases hok
  have hpausable : IsLaidOut (Item.implement "Pausable" b.name (pause ++ resume ++ [
      "    fn is_paused(&self) -> bool \x7b", "        self.core.is_paused()",
      "    \x7d"])).lines [] := by
    refine .implement (by simp [traits]) ?_
    simp only [List.mem_append, List.mem_cons, List.not_mem_nil, or_false]
    rintro line ((hline | hline) | rfl | rfl | rfl)
    · exact transitionLines_indented hpause line hline
    · exact transitionLines_indented hresume line hline
    all_goals exact indented_text rfl
  have htypes := IsLaidOut.of_mapM hnested fun type _ _ => nestedLines_laidOut
  have hall := ((((monitorHead_laidOut b).append (monitorBody_laidOut hbody)).append
    hpausable).append .blank).append ((eventsLines_laidOut b).append htypes)
  simpa [Item.lines, monitorRosters] using hall

/-! ## Namespaces -/

/-- The method that lists the variables of a storage. -/
def variablesItem (vars : List String) : MethodItem where
  ident := "variables"
  rest := "() -> Vec<(String, Value, bool)> \x7b"
  body := "        vec![" :: vars ++ ["        ]"]

theorem variablesItem_isSound {vars : List String} (hvars : ∀ line ∈ vars, indented 8 line) :
    (variablesItem vars).isSound := by
  refine method_isSound nofun (by simp [variablesItem, visibilities]) (head?_text '(' _) ?_
  simp only [variablesItem, List.cons_append, List.mem_append, List.mem_cons, List.not_mem_nil,
    or_false]
  rintro line (rfl | hline | rfl)
  · exact indented_text rfl
  · exact hvars line hline
  · exact indented_text rfl

/-- The storage of a namespace is laid out. -/
theorem storageLines_laidOut {b : Blueprint} {lines : List String}
    (h : storageLines b = .ok lines) : IsLaidOut lines (storageRosters b) := by
  obtain ⟨vars, hvars, hok⟩ := bind_eq_ok.mp h
  cases hok
  have hindented : ∀ line ∈ vars, indented 8 line := by
    intro line hline
    obtain ⟨stmt, -, hstmt⟩ := (mem_iff_of_mapM_eq_ok hvars).mp hline
    unfold variableLine at hstmt
    split at hstmt
    · cases hstmt
      simp [indented]
    · cases hstmt
  have himpl : IsLaidOut (Item.inherent b.name [variablesItem vars]).lines
      [.methods b.name ["variables"]] :=
    .inherent_singleton (variablesItem_isSound hindented)
  have hunit : IsLaidOut (Item.unit b.name).lines [.fields b.name []] := .item rfl
  have hcomment : IsLaidOut ["/// Variables of the namespace tree by qualified name."] [] :=
    .loose (comment_isSound rfl)
  have hall := ((hcomment.append hunit).append .blank).append himpl
  simpa [Item.lines, MethodItem.lines, variablesItem, storageRosters] using hall

/-- The constructor of a proxy begins like that of any type. -/
theorem proxyConstructor_eq {b : Blueprint} {path : String} {storage : Option Blueprint}
    {lines : List String} (h : proxyConstructor b path storage = .ok lines) :
    ∃ rest body, lines = ("    pub fn new" ++ rest) :: body ∧ rest.toList.head? = some '(' ∧
      ∀ line ∈ body, indented 8 line := by
  unfold proxyConstructor at h
  split at h
  · cases h
    have hhead : "    pub fn new(root: &Weak<RootConnection>) -> Arc<Self> \x7b" =
        "    pub fn new" ++ "(root: &Weak<RootConnection>) -> Arc<Self> \x7b" := by
      symm
      exact String.ofList_append.symm
    refine ⟨"(root: &Weak<RootConnection>) -> Arc<Self> \x7b", _, congrArg (· :: _) hhead,
      head?_text '(' _, ?_⟩
    simp only [List.forall_mem_cons]
    exact ⟨indented_text rfl, indented_text rfl, nofun⟩
  · split at h
    · cases h
    · cases h
      have hhead : "    pub fn new(context: &RuntimeContext) -> Arc<Self> \x7b" =
          "    pub fn new" ++ "(context: &RuntimeContext) -> Arc<Self> \x7b" := by
        symm
        exact String.ofList_append.symm
      refine ⟨"(context: &RuntimeContext) -> Arc<Self> \x7b", _, congrArg (· :: _) hhead,
        head?_text '(' _, ?_⟩
      simp only [List.forall_mem_cons, String.append_assoc]
      exact ⟨indented_text_append rfl _, indented_text_append rfl _, indented_text_append rfl _,
        indented_text rfl, indented_text rfl, indented_text rfl, indented_text rfl,
        indented_text rfl, indented_text rfl, nofun⟩

/-- The constructor of a proxy: how it begins, and the lines that fill its fields. -/
def proxyConstructorItem (rest : String) (body inits : List String) : MethodItem where
  ident := "new"
  rest := rest
  body := body ++ inits ++ ["        \x7d)"]

theorem proxyConstructorItem_isSound {rest : String} {body inits : List String}
    (hrest : rest.toList.head? = some '(') (hbody : ∀ line ∈ body, indented 8 line)
    (hinits : ∀ line ∈ inits, indented 8 line) :
    (proxyConstructorItem rest body inits).isSound := by
  refine method_isSound nofun (by simp [proxyConstructorItem, visibilities]) hrest ?_
  simp only [proxyConstructorItem, List.mem_append, List.mem_cons, List.not_mem_nil, or_false]
  rintro line ((hline | hline) | rfl)
  · exact hbody line hline
  · exact hinits line hline
  · exact indented_text rfl

/-- The method that gives a proxy the connection of its root, which is in the proxy itself where
it has a storage. -/
def connectionItem (path : String) (storage : Option Blueprint) : MethodItem where
  above := [""]
  visibility := ""
  ident := "connection"
  rest := "(&self) -> Result<Arc<RootConnection>> \x7b"
  body := ["        " ++ (if storage.isSome then "self.connection.clone()"
    else "self.root.upgrade()") ++ ".ok_or_else(|| Error::Disconnected(" ++ Text.quoted path
      ++ ".to_string()))"]

theorem connectionItem_isSound (path : String) (storage : Option Blueprint) :
    (connectionItem path storage).isSound := by
  refine method_isSound (by simp [connectionItem]) (by simp [connectionItem, visibilities])
    (head?_text '(' _) ?_
  simp only [connectionItem, String.append_assoc]
  exact List.forall_mem_singleton.mpr (indented_text_append rfl _)

/-- The field of a proxy that leads to its root. -/
def rootLink (storage : Option Blueprint) : FieldItem :=
  if storage.isSome then ⟨"", "connection", ": Option<Arc<RootConnection>>,"⟩
  else ⟨"", "root", ": Weak<RootConnection>,"⟩

theorem rootLink_isSound (storage : Option Blueprint) : (rootLink storage).isSound := by
  cases storage <;> exact field_isSound (by simp [rootLink, visibilities]) (head?_text ':' _)

theorem rootLink_line (storage : Option Blueprint) : (rootLink storage).line =
    if storage.isSome then "    connection: Option<Arc<RootConnection>>,"
    else "    root: Weak<RootConnection>," := by
  cases storage <;> simp [rootLink, FieldItem.line]

theorem proxyStruct_laidOut (b : Blueprint) (storage : Option Blueprint) :
    IsLaidOut (Item.struct b.name (rootLink storage :: b.fields.map (fieldItem ""))).lines
      [.fields b.name ((rootLink storage).ident :: fieldIdents b.fields)] := by
  rw [← fieldItem_idents ""]
  refine .struct ?_
  simp only [List.mem_cons]
  rintro f (rfl | hf)
  · exact rootLink_isSound storage
  · exact fieldItem_isSound (by simp [visibilities]) _ f hf

theorem proxyBody_laidOut {b : Blueprint} {path : String} {storage : Option Blueprint}
    {lines : List String} (h : proxyBody b path storage = .ok lines) :
    IsLaidOut lines [.fields b.name ((rootLink storage).ident :: fieldIdents b.fields),
      .methods b.name ("new" :: "connection" :: methodIdents b.methods)] := by
  obtain ⟨constructor, hconstructor, h⟩ := bind_eq_ok.mp h
  obtain ⟨inits, hinits, h⟩ := bind_eq_ok.mp h
  obtain ⟨methods, hmethods, hok⟩ := bind_eq_ok.mp h
  obtain ⟨rest, body, rfl, hrest, hbody⟩ := proxyConstructor_eq hconstructor
  obtain ⟨items, hidents, hsounds, hitems⟩ := methodLines_items hmethods
  have hnew := proxyConstructorItem_isSound hrest hbody (initLines_indented hinits)
  have himpl : IsLaidOut (Item.inherent b.name
      (proxyConstructorItem rest body inits :: connectionItem path storage :: items)).lines
      [.methods b.name ("new" :: "connection" :: methodIdents b.methods)] := by
    rw [← hidents]
    refine .inherent ?_
    simp only [List.mem_cons]
    rintro m (rfl | rfl | hm)
    · exact hnew
    · exact connectionItem_isSound path storage
    · exact hsounds m hm
  have hdoc : IsLaidOut ["/// " ++ b.doc.getD ("Namespace `" ++ path ++ "`.")] [] :=
    .loose (comment_isSound (startsWith_append rfl _))
  have hall := ((hdoc.append (proxyStruct_laidOut b storage)).append .blank).append himpl
  cases hok
  simpa [Item.lines, MethodItem.lines, rootLink_line, proxyConstructorItem, connectionItem,
    fieldLines_eq, hitems] using hall

mutual

/-- A proxy is laid out with those of its children. -/
theorem proxyLines_laidOut {storage : Option Blueprint} : ∀ {b : Blueprint} {lines : List String},
    proxyLines storage b = .ok lines →
      IsLaidOut lines (proxyRosters (rootLink storage).ident b)
  | ⟨name, qualifiedName, kind, doc, fields, constructor, methods, nested⟩, lines, h => by
    unfold proxyLines at h
    split at h
    · obtain ⟨body, hbody, h⟩ := bind_eq_ok.mp h
      obtain ⟨children, hchildren, hok⟩ := bind_eq_ok.mp h
      cases hok
      exact (proxyBody_laidOut hbody).append (childLines_laidOut hchildren)
    · cases h

theorem childLines_laidOut : ∀ {bs : List Blueprint} {lines : List String},
    childLines bs = .ok lines → IsLaidOut lines (childRosters bs)
  | [], lines, h => by
    cases h
    exact .nil
  | b :: rest, lines, h => by
    rw [childLines] at h
    split at h
    · rename_i root path hkind
      obtain ⟨first, hfirst, h⟩ := bind_eq_ok.mp h
      obtain ⟨others, hothers, hok⟩ := bind_eq_ok.mp h
      cases hok
      rw [childRosters_cons_of_proxy rest hkind]
      refine .append ?_ (childLines_laidOut hothers)
      cases hproxy : proxyLines none b with
      | error flaw =>
        rw [hproxy] at hfirst
        cases hfirst
      | ok lines =>
        rw [hproxy] at hfirst
        cases hfirst
        exact .cons rfl (proxyLines_laidOut hproxy)
    · rename_i hother
      obtain ⟨first, hfirst, h⟩ := bind_eq_ok.mp h
      obtain ⟨others, hothers, hok⟩ := bind_eq_ok.mp h
      cases hfirst
      cases hok
      rw [childRosters_cons_of_other rest hother]
      exact childLines_laidOut hothers

end

/-- The module of a root namespace is laid out. -/
theorem spaceLines_laidOut {b : Blueprint} {lines : List String} (h : spaceLines b = .ok lines) :
    IsLaidOut lines (spaceRosters b) := by
  unfold spaceLines at h
  split at h
  · rename_i root path hkind
    split at h
    · cases h
    · rename_i storage hstorage
      obtain ⟨vars, hvars, h⟩ := bind_eq_ok.mp h
      obtain ⟨proxy, hproxy, hok⟩ := bind_eq_ok.mp h
      cases hok
      have hhead : IsLaidOut ["//! Generated by vigil from namespace `" ++ root
          ++ "`. Do not edit.", allowLine, "", "use std::sync::\x7bArc, Weak\x7d;", "",
          "use vigil_runtime::prelude::*;", ""] [] :=
        .cons (comment_isSound (startsWith_append (startsWith_append rfl _) _))
          (.cons (attribute_isSound rfl) (.cons rfl (.cons (import_isSound rfl) (.cons rfl
            (.cons (import_isSound rfl) .blank)))))
      have hall := ((hhead.append (storageLines_laidOut hvars)).append .blank).append
        (proxyLines_laidOut hproxy)
      simpa [spaceRosters, hstorage, rootLink] using hall
  · cases h

/-- A rendered module is laid out as its blueprint tells. -/
theorem moduleOf_laidOut {b : Blueprint} {path : String} {lines : List String}
    (h : moduleOf b = .ok (path, lines)) : IsLaidOut lines (rosters b) := by
  unfold moduleOf at h
  split at h
  · rename_i hkind
    obtain ⟨rendered, hrendered, hok⟩ := bind_eq_ok.mp h
    cases hok
    simp only [rosters, hkind]
    exact monitorLines_laidOut hrendered
  · rename_i hkind
    obtain ⟨rendered, hrendered, hok⟩ := bind_eq_ok.mp h
    cases hok
    simp only [rosters, hkind]
    exact spaceLines_laidOut hrendered
  · cases h

end Watchtower.Rendering
