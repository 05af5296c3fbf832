-- What a monitor imports of the namespaces that it uses: always the type of the proxy, and its
-- module where the name of a namespace is spelled like the name of its type.
import Watchtower.Proofs.Naming.Words
import Watchtower.Proofs.Rendering.Paths
import Watchtower.Proofs.Rendering.Types

namespace Watchtower

open Source (SourceUnit)

namespace Rendering

/-- The module of a monitor imports the namespaces that the monitor shares. -/
theorem importLine_mem_monitorLines {b : Blueprint} {lines : List String} {space : String}
    (h : monitorLines b = .ok lines) (hspace : space ∈ sharedSpaces b) :
    importLine space ∈ lines := by
  have hhead : importLine space ∈ monitorHead b := by
    simp [monitorHead, List.mem_map_of_mem hspace]
  unfold monitorLines at h
  split at h
  · cases h
  · obtain ⟨body, -, h⟩ := bind_eq_ok.mp h
    obtain ⟨pause, -, h⟩ := bind_eq_ok.mp h
    obtain ⟨resume, -, h⟩ := bind_eq_ok.mp h
    obtain ⟨nested, -, hok⟩ := bind_eq_ok.mp h
    cases hok
    simp [hhead]

/-- The module of a root namespace defines the type of its proxy. -/
theorem proxyStruct_mem_spaceLines {package : Option String} {decl : Source.Namespace}
    {lines : List String} (h : spaceLines (Blueprint.ofSpace package decl) = .ok lines) :
    proxyStruct (Naming.pascal decl.name) ∈ lines := by
  have hroot : Blueprint.ofSpace package decl ∈ (Blueprint.ofSpace package decl).proxies := by
    rw [Blueprint.proxies, Blueprint.walk_eq]
    exact List.mem_filter.mpr ⟨List.mem_cons_self, rfl⟩
  have hdefined : proxyStruct (Naming.pascal decl.name) ∈ lines.filter definesType := by
    rw [types_spaceLines h]
    exact List.mem_cons_of_mem _ (List.mem_map.mpr ⟨_, hroot, rfl⟩)
  exact List.mem_of_mem_filter hdefined

/-- The module of a monitor stands among those of the monitors. -/
theorem monitorFile_of_holdsModule {b : Blueprint} {generated : List GeneratedFile}
    (h : HoldsModule generated b) (hkind : b.kind = .monitor) :
    ∃ code, monitorLines b = .ok code ∧
      ⟨"monitors/" ++ (Naming.snake b.name ++ ".rs"), true, unlines code⟩ ∈ generated := by
  obtain ⟨code, hmodule, hmem⟩ := h
  simp only [moduleOf, hkind] at hmodule
  obtain ⟨_, hcode, hok⟩ := bind_eq_ok.mp hmodule
  obtain ⟨-, heq⟩ := Prod.mk.inj (Except.ok.inj hok)
  subst heq
  exact ⟨_, hcode, by simpa [modulePath, isMonitor, hkind] using hmem⟩

/-- The module of a root namespace stands among those of the namespaces. -/
theorem spaceFile_of_holdsModule {b : Blueprint} {root path : String}
    {generated : List GeneratedFile} (h : HoldsModule generated b)
    (hkind : b.kind = .namespaceProxy root path) :
    ∃ lines, spaceLines b = .ok lines ∧
      ⟨"namespaces/" ++ (Naming.snake b.name ++ ".rs"), true, unlines lines⟩ ∈ generated := by
  obtain ⟨lines, hmodule, hmem⟩ := h
  simp only [moduleOf, hkind] at hmodule
  obtain ⟨_, hlines, hok⟩ := bind_eq_ok.mp hmodule
  obtain ⟨-, heq⟩ := Prod.mk.inj (Except.ok.inj hok)
  subst heq
  exact ⟨_, hlines, by simpa [modulePath, isMonitor, hkind] using hmem⟩

end Rendering

open Rendering

/-- Where an accepted monitor uses an accepted namespace, the import in its module names the type
that the module of the namespace defines for the root. It names that module where the name of the
namespace begins with a word and each of its joints stands before a letter, and no other time,
provided that each word begins with a letter that has a simple capital, or with no letter. -/
theorem imports_name_their_modules_where_joints_stand_before_letters {index : SpaceIndex}
    {package package' : Option String} {space : Source.Namespace} {monitor : Source.Monitor}
    {s m : Blueprint} {bs : List Blueprint} {manifest : Option Manifest}
    {generated : List GeneratedFile}
    (hspace : Report.outcome true package index (.space space) = .ok s)
    (hmonitor : Report.outcome true package' index (.monitor monitor) = .ok m)
    (husing : space.name ∈ monitor.usings) (hs : s ∈ bs) (hm : m ∈ bs)
    (hfiles : files bs manifest = .ok generated) :
    ∃ lines code, spaceLines s = .ok lines ∧ monitorLines m = .ok code ∧
      ⟨"namespaces/" ++ (Naming.snake s.name ++ ".rs"), true, unlines lines⟩ ∈ generated ∧
      ⟨"monitors/" ++ (Naming.snake m.name ++ ".rs"), true, unlines code⟩ ∈ generated ∧
      "pub struct " ++ s.name ++ " \x7b" ∈ lines ∧
      "use super::super::namespaces::" ++ Naming.snake space.name ++ "::" ++ s.name ++ ";" ∈ code ∧
      ((∀ word ∈ Naming.words space.name, Naming.BeginsPlainly word) →
        (Naming.snake space.name = Naming.snake s.name ↔
          space.name = "" ∨ Naming.IsJoinedAtLetters space.name)) := by
  obtain ⟨-, hlower⟩ := outcome_eq_ok.mp hspace
  obtain ⟨-, hlower'⟩ := outcome_eq_ok.mp hmonitor
  cases hlower
  have hfrom := isLoweredFrom_of_ofMonitor hlower'
  obtain ⟨-, -, -, -, -, -, hheld, -⟩ := files_eq_ok hfiles
  obtain ⟨lines, hlines, hspaceFile⟩ := spaceFile_of_holdsModule (hheld _ hs) rfl
  obtain ⟨code, hcode, hmonitorFile⟩ := monitorFile_of_holdsModule (hheld m hm) hfrom.kind
  refine ⟨lines, code, hlines, hcode, hspaceFile, hmonitorFile, proxyStruct_mem_spaceLines hlines,
    ?_, ?_⟩
  · have hshared : space.name ∈ sharedSpaces m := by
      rwa [sharedSpaces_of_isLoweredFrom hfrom]
    exact importLine_mem_monitorLines hcode hshared
  · intro hplain
    rw [← Naming.snake_pascal_iff hplain]
    exact eq_comm

/-- A namespace, and a monitor that uses it. -/
def usedUnits (space : String) : List SourceUnit :=
  [⟨some "demo", [.space ⟨space, [], none⟩, .monitor ⟨"Watch", [space], [], none⟩]⟩]

theorem import_of_a_disk_cache_names_its_module :
    ∃ s m generated code, (Report.ofUnits (usedUnits "disk_cache") true).blueprints = [s, m] ∧
      files [s, m] none = .ok generated ∧ monitorLines m = .ok code ∧
      "use super::super::namespaces::disk_cache::DiskCache;" ∈ code ∧
      Naming.snake "disk_cache" = Naming.snake s.name := by
  let index := SpaceIndex.ofUnits (usedUnits "disk_cache")
  obtain ⟨s, m, generated, hspace, hmonitor, hbs, hfiles, hname⟩ : ∃ s m generated,
      Report.outcome true (some "demo") index (.space ⟨"disk_cache", [], none⟩) = .ok s ∧
        Report.outcome true (some "demo") index
          (.monitor ⟨"Watch", ["disk_cache"], [], none⟩) = .ok m ∧
        (Report.ofUnits (usedUnits "disk_cache") true).blueprints = [s, m] ∧
        files [s, m] none = .ok generated ∧ s.name = "DiskCache" :=
    ⟨_, _, _, rfl, rfl, rfl, rfl, rfl⟩
  obtain ⟨lines, code, -, hcode, -, -, -, himport, hmodule⟩ :=
    imports_name_their_modules_where_joints_stand_before_letters hspace hmonitor
      (List.mem_singleton_self _) List.mem_cons_self (by simp) hfiles
  have hplain : ∀ word ∈ Naming.words "disk_cache", Naming.BeginsPlainly word := by decide
  have hjoined : Naming.IsJoinedAtLetters "disk_cache" := by decide
  have hline : "use super::super::namespaces::" ++ Naming.snake "disk_cache" ++ "::" ++ "DiskCache"
      ++ ";" = "use super::super::namespaces::disk_cache::DiskCache;" := rfl
  rw [hname, hline] at himport
  exact ⟨s, m, generated, code, hbs, hfiles, hcode, himport,
    (hmodule hplain).mpr (.inr hjoined)⟩

/-- The module of a namespace `mem_1` is called `mem1`, and the monitor that uses the namespace
imports from `mem_1`, where there is nothing. -/
theorem an_import_of_a_numbered_namespace_names_no_module :
    (Report.ofUnits (usedUnits "mem_1") true).accepted = ["demo.mem_1", "demo.Watch"] ∧
      ∃ s m generated code, (Report.ofUnits (usedUnits "mem_1") true).blueprints = [s, m] ∧
        files [s, m] none = .ok generated ∧
        generated.map (·.path) = ["namespaces/mem1.rs", "monitors/watch.rs", "mod.rs",
          "monitors/mod.rs", "namespaces/mod.rs"] ∧
        monitorLines m = .ok code ∧ "use super::super::namespaces::mem_1::Mem1;" ∈ code := by
  obtain ⟨s, m, generated, code, hbs, hfiles, hpaths, hcode, hshared⟩ :
      ∃ s m generated code, (Report.ofUnits (usedUnits "mem_1") true).blueprints = [s, m] ∧
        files [s, m] none = .ok generated ∧
        generated.map (·.path) = ["namespaces/mem1.rs", "monitors/watch.rs", "mod.rs",
          "monitors/mod.rs", "namespaces/mod.rs"] ∧
        monitorLines m = .ok code ∧ sharedSpaces m = ["mem_1"] :=
    ⟨_, _, _, _, rfl, rfl, rfl, rfl, rfl⟩
  have hline : importLine "mem_1" = "use super::super::namespaces::mem_1::Mem1;" := rfl
  refine ⟨rfl, s, m, generated, code, hbs, hfiles, hpaths, hcode, ?_⟩
  rw [← hline]
  exact importLine_mem_monitorLines hcode (by simp [hshared])

end Watchtower
