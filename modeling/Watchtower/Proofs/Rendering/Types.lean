-- The types that the module of a namespace defines: the storage first, and then the proxies of the
-- tree in the order of a walk. No other line of the module begins like a definition, so a type is
-- defined twice just when two nodes of the tree have proxies of one name.
import Watchtower.Proofs.Rendering.Members

namespace Watchtower

open Linking (isProxy)
open Source (SpaceItem)

namespace Rendering

/-! ## Definitions -/

/-- The line defines a type. -/
def definesType (line : String) : Bool :=
  Text.startsWith line "pub struct "

/-- The line at which the struct of a proxy begins. -/
def proxyStruct (type : String) : String :=
  "pub struct " ++ type ++ " \x7b"

@[simp] theorem definesType_append (rest : String) : definesType ("pub struct " ++ rest) := by
  simp [definesType, Text.startsWith]

theorem definesType_proxyStruct (type : String) : definesType (proxyStruct type) := by
  rw [proxyStruct, String.append_assoc]
  exact definesType_append _

/-- A line defines no type when it begins with another character. -/
theorem not_definesType {line : String} (h : line.toList.head? ≠ some 'p') :
    definesType line = false := by
  unfold definesType Text.startsWith
  cases hline : line.toList with
  | nil => rfl
  | cons c cs =>
    have hc : c ≠ 'p' := by simpa [hline] using h
    have hhead : ('p' == c) = false := beq_false_of_ne (Ne.symm hc)
    simp [List.isPrefixOf, hhead]

theorem not_definesType_of_indented {n : Nat} {line : String} (h : indented (n + 1) line) :
    definesType line = false := by
  apply not_definesType
  unfold indented at h
  cases hline : line.toList with
  | nil => simp
  | cons c cs =>
    rw [hline, List.take_succ_cons, List.all_cons, Bool.and_eq_true, beq_iff_eq] at h
    rw [List.head?_cons, h.1]
    decide

/-- None of the lines defines a type. -/
def DefineNothing (lines : List String) : Prop :=
  ∀ line ∈ lines, definesType line = false

theorem DefineNothing.filter {lines : List String} (h : DefineNothing lines) :
    lines.filter definesType = [] := by
  rw [List.filter_eq_nil_iff]
  intro line hline
  simp [h line hline]

theorem DefineNothing.of_indented {n : Nat} {lines : List String}
    (h : ∀ line ∈ lines, indented (n + 1) line) : DefineNothing lines :=
  fun line hline => not_definesType_of_indented (h line hline)

/-! ## Proxies -/

theorem methodLines_defineNothing {m : Method} {lines : List String}
    (h : methodLines m = .ok lines) : DefineNothing lines := by
  obtain ⟨body, hbody, hok⟩ := bind_eq_ok.mp h
  cases hok
  have hbody : DefineNothing body := .of_indented (bodyLines_indented (Nat.le_refl 8) hbody)
  simp only [List.cons_append, DefineNothing, List.mem_cons, List.mem_append, List.not_mem_nil,
    or_false]
  rintro line (rfl | (hline | hline) | rfl)
  · exact not_definesType (by simp)
  · exact hbody line hline
  · split at hline
    · rw [List.mem_singleton.mp hline]
      exact not_definesType (by simp)
    · cases hline
  · exact not_definesType (by simp)

theorem methods_defineNothing {methods : List Method} {parts : List (List String)}
    (h : methods.mapM methodLines = .ok parts) : DefineNothing (parts.flatMap ("" :: ·)) := by
  intro line hline
  obtain ⟨lines, hlines, hline⟩ := List.mem_flatMap.mp hline
  obtain ⟨m, -, hm⟩ := (mem_iff_of_mapM_eq_ok h).mp hlines
  rcases List.mem_cons.mp hline with rfl | hline
  · exact not_definesType (by simp)
  · exact methodLines_defineNothing hm line hline

theorem fieldLines_defineNothing (visibility : String) (fields : List Field) :
    DefineNothing (fieldLines visibility fields) := by
  intro line hline
  obtain ⟨f, -, rfl⟩ := List.mem_map.mp hline
  exact not_definesType (by simp)

theorem proxyConstructor_defineNothing {b : Blueprint} {path : String}
    {storage : Option Blueprint} {lines : List String}
    (h : proxyConstructor b path storage = .ok lines) : DefineNothing lines := by
  obtain ⟨rest, body, rfl, -, hbody⟩ := proxyConstructor_eq h
  exact List.forall_mem_cons.mpr ⟨not_definesType (by simp), DefineNothing.of_indented hbody⟩

/-- A proxy without its children defines its own type. -/
theorem types_proxyBody {b : Blueprint} {path : String} {storage : Option Blueprint}
    {lines : List String} (h : proxyBody b path storage = .ok lines) :
    lines.filter definesType = [proxyStruct b.name] := by
  obtain ⟨constructor, hconstructor, h⟩ := bind_eq_ok.mp h
  obtain ⟨inits, hinits, h⟩ := bind_eq_ok.mp h
  obtain ⟨methods, hmethods, hok⟩ := bind_eq_ok.mp h
  cases hok
  have hinits : DefineNothing inits := .of_indented (initLines_indented hinits)
  have hhead : ["/// " ++ b.doc.getD ("Namespace `" ++ path ++ "`."), proxyStruct b.name,
      if storage.isSome then "    connection: Option<Arc<RootConnection>>,"
        else "    root: Weak<RootConnection>,"].filter definesType = [proxyStruct b.name] := by
    have hdoc := not_definesType
      (show ("/// " ++ b.doc.getD ("Namespace `" ++ path ++ "`.")).toList.head? ≠ some 'p' by simp)
    have hroot : definesType "    root: Weak<RootConnection>," = false := rfl
    have hown : definesType "    connection: Option<Arc<RootConnection>>," = false := rfl
    split
    · simp [hdoc, hown, definesType_proxyStruct]
    · simp [hdoc, hroot, definesType_proxyStruct]
  have himpl : DefineNothing ["\x7d", "", "impl " ++ b.name ++ " \x7b"] := by
    simp only [DefineNothing, List.forall_mem_cons]
    exact ⟨rfl, rfl, not_definesType (by simp), nofun⟩
  have hconnection : DefineNothing ["        \x7d)", "    \x7d", "",
      "    fn connection(&self) -> Result<Arc<RootConnection>> \x7b",
      "        " ++ (if storage.isSome then "self.connection.clone()"
        else "self.root.upgrade()") ++ ".ok_or_else(|| Error::Disconnected(" ++ Text.quoted path
        ++ ".to_string()))", "    \x7d"] := by
    simp only [DefineNothing, List.forall_mem_cons]
    exact ⟨rfl, rfl, rfl, rfl, not_definesType (by simp), rfl, nofun⟩
  have hend : DefineNothing ["\x7d"] := List.forall_mem_singleton.mpr rfl
  rw [proxyStruct] at hhead ⊢
  simp only [List.filter_append, hhead, (fieldLines_defineNothing "" b.fields).filter,
    himpl.filter, (proxyConstructor_defineNothing hconstructor).filter, hinits.filter,
    hconnection.filter, (methods_defineNothing hmethods).filter, hend.filter, List.append_nil]

/-- Where the nodes but proxies are leaves, there is no proxy below a node of another kind. -/
theorem filter_walk_of_kind_ne {b : Blueprint}
    (hkind : ∀ root path, b.kind ≠ .namespaceProxy root path)
    (htree : ∀ node ∈ b.walk, isProxy node ∨ node.nested = []) : b.walk.filter isProxy = [] := by
  have hother : isProxy b = false := by
    unfold isProxy
    split
    · rename_i root path hproxy
      exact absurd hproxy (hkind root path)
    · rfl
  have hself : b ∈ b.walk := by simp [Blueprint.walk_eq]
  have hleaf := (htree b hself).resolve_left (by simp [hother])
  simp [Blueprint.walk_eq, hleaf, Blueprint.walkAll, hother]

mutual

/-- The lines of a proxy define the proxies of its tree. -/
theorem types_proxyLines {storage : Option Blueprint} : ∀ {b : Blueprint} {lines : List String},
    proxyLines storage b = .ok lines → (∀ node ∈ b.walk, isProxy node ∨ node.nested = []) →
      lines.filter definesType = b.proxies.map fun node => proxyStruct node.name
  | ⟨name, qualifiedName, kind, doc, fields, constructor, methods, nested⟩, lines, h, htree => by
    unfold proxyLines at h
    split at h
    · rename_i root path
      obtain ⟨body, hbody, h⟩ := bind_eq_ok.mp h
      obtain ⟨children, hchildren, hok⟩ := bind_eq_ok.mp h
      cases hok
      rw [Blueprint.walk] at htree
      rw [List.filter_append, types_proxyBody hbody, types_childLines hchildren
        fun node hnode => htree node (List.mem_cons_of_mem _ hnode)]
      rfl
    · cases h

/-- The lines of children define the proxies of their trees. -/
theorem types_childLines : ∀ {bs : List Blueprint} {lines : List String},
    childLines bs = .ok lines → (∀ node ∈ Blueprint.walkAll bs, isProxy node ∨ node.nested = []) →
      lines.filter definesType =
        ((Blueprint.walkAll bs).filter isProxy).map fun node => proxyStruct node.name
  | [], lines, h, _ => by
    cases h
    rfl
  | b :: rest, lines, h, htree => by
    rw [Blueprint.walkAll] at htree ⊢
    have hrest : ∀ {others : List String}, childLines rest = .ok others → _ :=
      fun hothers => types_childLines hothers fun node hnode =>
        htree node (List.mem_append_right _ hnode)
    rw [childLines] at h
    split at h
    · obtain ⟨first, hfirst, h⟩ := bind_eq_ok.mp h
      obtain ⟨others, hothers, hok⟩ := bind_eq_ok.mp h
      cases hok
      cases hproxy : proxyLines none b with
      | error flaw =>
        rw [hproxy] at hfirst
        cases hfirst
      | ok lines =>
        rw [hproxy] at hfirst
        cases hfirst
        have hblank : definesType "" = false := rfl
        have htypes := types_proxyLines hproxy fun node hnode =>
          htree node (List.mem_append_left _ hnode)
        rw [List.filter_append, List.filter_cons_of_neg (by simp [hblank]), htypes, hrest hothers,
          List.filter_append, List.map_append]
        rfl
    · rename_i hkind
      obtain ⟨first, hfirst, h⟩ := bind_eq_ok.mp h
      obtain ⟨others, hothers, hok⟩ := bind_eq_ok.mp h
      cases hfirst
      cases hok
      have hwalk := filter_walk_of_kind_ne hkind fun node hnode =>
        htree node (List.mem_append_left _ hnode)
      rw [List.nil_append, hrest hothers, List.filter_append, hwalk, List.nil_append]

end

/-- The storage of a namespace is a type of its own. -/
theorem types_storageLines {b : Blueprint} {lines : List String} (h : storageLines b = .ok lines) :
    lines.filter definesType = ["pub struct " ++ b.name ++ ";"] := by
  obtain ⟨vars, hvars, hok⟩ := bind_eq_ok.mp h
  cases hok
  have hvars : DefineNothing vars := by
    intro line hline
    obtain ⟨stmt, -, hstmt⟩ := (mem_iff_of_mapM_eq_ok hvars).mp hline
    unfold variableLine at hstmt
    split at hstmt
    · cases hstmt
      exact not_definesType (by simp)
    · cases hstmt
  have hhead : ["/// Variables of the namespace tree by qualified name.",
      "pub struct " ++ b.name ++ ";", "", "impl " ++ b.name ++ " \x7b",
      "    pub fn variables() -> Vec<(String, Value, bool)> \x7b", "        vec!["].filter
        definesType = ["pub struct " ++ b.name ++ ";"] := by
    have hunit : definesType ("pub struct " ++ b.name ++ ";") = true := by
      rw [String.append_assoc]
      exact definesType_append _
    have hrest : DefineNothing ["", "impl " ++ b.name ++ " \x7b",
        "    pub fn variables() -> Vec<(String, Value, bool)> \x7b", "        vec!["] := by
      simp only [DefineNothing, List.forall_mem_cons]
      exact ⟨rfl, not_definesType (by simp), rfl, rfl, nofun⟩
    have hdoc : definesType "/// Variables of the namespace tree by qualified name." = false := rfl
    rw [List.filter_cons_of_neg (by simp [hdoc]), List.filter_cons_of_pos hunit, hrest.filter]
  have hend : DefineNothing ["        ]", "    \x7d", "\x7d"] := by
    simp only [DefineNothing, List.forall_mem_cons]
    exact ⟨rfl, rfl, rfl, nofun⟩
  simp only [List.filter_append, hhead, hvars.filter, hend.filter, List.append_nil]

/-- The module of a namespace defines the storage and the proxies of the tree. -/
theorem types_spaceLines {package : Option String} {decl : Source.Namespace} {lines : List String}
    (h : spaceLines (Blueprint.ofSpace package decl) = .ok lines) :
    lines.filter definesType = ("pub struct " ++ (Naming.pascal decl.name ++ "Storage") ++ ";") ::
      (Blueprint.ofSpace package decl).proxies.map fun node => proxyStruct node.name := by
  obtain ⟨storage, -, -, hname, hfound, -⟩ := walk_ofSpace_eq package decl
  have hkind : (Blueprint.ofSpace package decl).kind = .namespaceProxy decl.name decl.name := rfl
  unfold spaceLines at h
  simp only [hkind, hfound] at h
  obtain ⟨vars, hvars, h⟩ := bind_eq_ok.mp h
  obtain ⟨proxy, hproxy, hok⟩ := bind_eq_ok.mp h
  cases hok
  have hhead : DefineNothing ["//! Generated by vigil from namespace `" ++ decl.name
      ++ "`. Do not edit.", allowLine, "", "use std::sync::\x7bArc, Weak\x7d;", "",
      "use vigil_runtime::prelude::*;", ""] := by
    simp only [DefineNothing, List.forall_mem_cons]
    exact ⟨not_definesType (by simp), rfl, rfl, rfl, rfl, rfl, rfl, nofun⟩
  have hblank : DefineNothing [""] := List.forall_mem_singleton.mpr rfl
  rw [← hname, List.filter_append, List.filter_append, List.filter_append, hhead.filter,
    types_storageLines hvars, hblank.filter,
    types_proxyLines hproxy fun node hnode => isProxy_or_leaf package decl hnode]
  rfl

end Rendering

/-! ## Types of their own -/

open Source (Leads nodePaths HasDistinctNames)
open Rendering

theorem hasDistinctNames_of_checkSpace {decl : Source.Namespace}
    (h : Members.checkSpace decl = .ok ()) : HasDistinctNames decl.body := by
  intro path inner hleads
  have hdistinct := (areAccessible_of_checkSpace h hleads).distinct
  rw [← List.map_map] at hdistinct
  exact hdistinct.of_map _

/-- An accepted namespace has a proxy for each path to a node, named by the words of the path. The
names are distinct just when no two paths run together to one text, so they are where the type
names of siblings tell where they end. The module of the namespace defines its storage and, once
for each proxy, the type of the proxy. -/
theorem proxies_have_types_of_their_own_where_paths_are_told_apart {index : SpaceIndex}
    {decl : Source.Namespace} (package : Option String)
    (h : Members.check index (.space decl) = .ok ()) :
    (∀ path, path ∈ nodePaths decl.body ↔ ∃ inner, Leads decl.body path inner) ∧
    (nodePaths decl.body).Nodup ∧
    (Blueprint.ofSpace package decl).proxies.map (·.name) =
      (nodePaths decl.body).map (typeAt (Naming.pascal decl.name)) ∧
    (((Blueprint.ofSpace package decl).proxies.map (·.name)).Nodup ↔
      ∀ first ∈ nodePaths decl.body, ∀ second ∈ nodePaths decl.body,
        typeAt (Naming.pascal decl.name) first = typeAt (Naming.pascal decl.name) second →
          first = second) ∧
    ((∀ path inner, Leads decl.body path inner → AreTold inner) →
      ((Blueprint.ofSpace package decl).proxies.map (·.name)).Nodup) ∧
    ∀ lines, spaceLines (Blueprint.ofSpace package decl) = .ok lines →
      lines.filter definesType =
        ("pub struct " ++ (Naming.pascal decl.name ++ "Storage") ++ ";") ::
          (Blueprint.ofSpace package decl).proxies.map fun node => proxyStruct node.name := by
  have hnames := hasDistinctNames_of_checkSpace h
  have hpaths := Source.nodePaths_nodup hnames
  have htypes := names_proxies_ofSpace package decl
  have hiff : ((Blueprint.ofSpace package decl).proxies.map (·.name)).Nodup ↔
      ∀ first ∈ nodePaths decl.body, ∀ second ∈ nodePaths decl.body,
        typeAt (Naming.pascal decl.name) first = typeAt (Naming.pascal decl.name) second →
          first = second := by
    rw [htypes]
    exact List.nodup_map_iff_inj_on hpaths
  refine ⟨fun path => Source.mem_nodePaths_iff, hpaths, htypes, hiff, ?_,
    fun lines => types_spaceLines⟩
  intro htold
  refine hiff.mpr fun first hfirst second hsecond heq => ?_
  obtain ⟨inner, hinner⟩ := Source.mem_nodePaths_iff.mp hfirst
  obtain ⟨inner', hinner'⟩ := Source.mem_nodePaths_iff.mp hsecond
  exact eq_of_pathChars hnames htold hinner hinner' (typeAt_inj.mp heq)

/-- A namespace with two children. -/
def diskSpace : Source.Namespace :=
  ⟨"disk", [.space "limits" [] none, .space "cache" [] none], none⟩

theorem diskSpace_areTold : AreTold diskSpace.body := by
  have hchild : ∀ {name : String} {inner : List SpaceItem} {span : Option Source.Span},
      .space name inner span ∈ diskSpace.body → name = "limits" ∨ name = "cache" := by
    intro name inner span h
    simp only [diskSpace, List.mem_cons, SpaceItem.space.injEq, List.not_mem_nil, or_false] at h
    exact h.imp And.left And.left
  have hlimits : (Naming.pascal "limits").toList = "Limits".toList := rfl
  have hcache : (Naming.pascal "cache").toList = "Cache".toList := rfl
  refine ⟨?_, ?_, ?_⟩
  · intro name inner span h
    rcases hchild h with rfl | rfl
    · decide
    · decide
  · intro name inner span h
    rcases hchild h with rfl | rfl
    · simp [BeginsAnew, hlimits, Text.isUpper]
    · simp [BeginsAnew, hcache, Text.isUpper]
  · intro name inner span h other inner' span' h' rest _ heq
    rcases hchild h with rfl | rfl
    · rcases hchild h' with rfl | rfl
      · rfl
      · simp [hlimits, hcache] at heq
    · rcases hchild h' with rfl | rfl
      · simp [hlimits, hcache] at heq
      · rfl

theorem proxies_of_a_disk_have_types_of_their_own :
    Members.check (SpaceIndex.ofUnits []) (.space diskSpace) = .ok () ∧
      (∀ path inner, Leads diskSpace.body path inner → AreTold inner) ∧
      (Blueprint.ofSpace (some "demo") diskSpace).proxies.map (·.name) =
        ["Disk", "DiskLimits", "DiskCache"] ∧
      ((Blueprint.ofSpace (some "demo") diskSpace).proxies.map (·.name)).Nodup := by
  have hcheck : Members.check (SpaceIndex.ofUnits []) (.space diskSpace) = .ok () := rfl
  have htold : ∀ path inner, Leads diskSpace.body path inner → AreTold inner := by
    intro path inner hleads
    cases path with
    | nil =>
      cases hleads
      exact diskSpace_areTold
    | cons child path =>
      obtain ⟨between, span, hmem, hrest⟩ := hleads
      have hleaf : between = [] := by
        simp only [diskSpace, List.mem_cons, SpaceItem.space.injEq, List.not_mem_nil,
          or_false] at hmem
        rcases hmem with ⟨-, hbetween, -⟩ | ⟨-, hbetween, -⟩
        · exact hbetween
        · exact hbetween
      subst hleaf
      cases path with
      | nil =>
        cases hrest
        exact areTold_nil
      | cons next path =>
        obtain ⟨_, _, hnone, -⟩ := hrest
        cases hnone
  obtain ⟨-, -, -, -, hnodup, -⟩ :=
    proxies_have_types_of_their_own_where_paths_are_told_apart (some "demo") hcheck
  exact ⟨hcheck, htold, rfl, hnodup htold⟩

/-- A namespace is accepted in which two paths run together, and its module defines a type
twice. -/
theorem paths_that_run_together_share_a_type :
    Members.check (SpaceIndex.ofUnits []) (.space ⟨"cpu", [.space "limits_max" [] none,
        .space "limits" [.space "max" [] none] none], none⟩) = .ok () ∧
      nodePaths [.space "limits_max" [] none, .space "limits" [.space "max" [] none] none] =
        [[], ["limits_max"], ["limits"], ["limits", "max"]] ∧
      (Blueprint.ofSpace (some "demo") ⟨"cpu", [.space "limits_max" [] none,
        .space "limits" [.space "max" [] none] none], none⟩).proxies.map (·.name) =
          ["Cpu", "CpuLimitsMax", "CpuLimits", "CpuLimitsMax"] ∧
      ∃ lines, spaceLines (Blueprint.ofSpace (some "demo") ⟨"cpu", [.space "limits_max" [] none,
          .space "limits" [.space "max" [] none] none], none⟩) = .ok lines ∧
        lines.count "pub struct CpuLimitsMax \x7b" = 2 :=
  ⟨rfl, rfl, rfl, _, rfl, rfl⟩

end Watchtower
