-- The paths of the generated files. The modules are kept apart from one another, and from the
-- indexes wherever no type takes the name of an index; then each file stays where it is written.
import Mathlib.Data.List.Nodup
import Watchtower.Proofs.FileTree
import Watchtower.Proofs.Rendering.Modules

namespace Watchtower

open Source (SourceUnit)
open FileTree (components writeAll IsEntryName components_join)

namespace Rendering

/-! ## Paths -/

/-- The files hold the module of a type, under the path of the type. -/
def HoldsModule (generated : List GeneratedFile) (b : Blueprint) : Prop :=
  ∃ lines, moduleOf b = .ok (modulePath b, lines) ∧
    ⟨modulePath b, true, unlines lines⟩ ∈ generated

/-- Modules that are rendered together have paths of their own, in the order of their types. -/
theorem modulesFrom_eq_ok {taken : List String} {bs : List Blueprint}
    {modules : List GeneratedFile} (h : modulesFrom taken bs = .ok modules) :
    modules.map (·.path) = bs.map modulePath ∧ (∀ f ∈ modules, f.primary) ∧
      (∀ b ∈ bs, HoldsModule modules b) ∧ (bs.map modulePath).Nodup ∧
      ∀ b ∈ bs, modulePath b ∉ taken := by
  induction bs generalizing taken modules with
  | nil =>
    cases h
    simp
  | cons b rest ih =>
    rw [modulesFrom] at h
    obtain ⟨⟨path, lines⟩, hmodule, h⟩ := bind_eq_ok.mp h
    obtain rfl := path_of_moduleOf hmodule
    simp only [List.contains_eq_mem, decide_eq_true_eq] at h
    split at h
    · obtain ⟨_, hflaw, -⟩ := bind_eq_ok.mp h
      cases hflaw
    · rename_i hfree
      obtain ⟨others, hothers, hok⟩ := bind_eq_ok.mp h
      cases hok
      obtain ⟨hpaths, hprimary, hheld, hdistinct, hnew⟩ := ih hothers
      refine ⟨by simp [hpaths], by simpa using hprimary, ?_, ?_, ?_⟩
      · intro c hc
        rcases List.mem_cons.mp hc with rfl | hc
        · exact ⟨lines, hmodule, List.mem_cons_self⟩
        · obtain ⟨inner, hinner, hmem⟩ := hheld c hc
          exact ⟨inner, hinner, List.mem_cons_of_mem _ hmem⟩
      · rw [List.map_cons, List.nodup_cons]
        refine ⟨fun hmem => ?_, hdistinct⟩
        obtain ⟨c, hc, heq⟩ := List.mem_map.mp hmem
        exact hnew c hc (heq ▸ List.mem_cons_self)
      · intro c hc
        rcases List.mem_cons.mp hc with rfl | hc
        · exact hfree
        · exact fun hmem => hnew c hc (List.mem_cons_of_mem _ hmem)

/-- The paths of the files that do not depend on the types. -/
def fixedPaths (manifest : Option Manifest) : List String :=
  ["mod.rs", "monitors/mod.rs", "namespaces/mod.rs"] ++ manifest.toList.map fun _ => manifestFile

theorem fixedPaths_sublist (manifest : Option Manifest) : (fixedPaths manifest).Sublist
    ["mod.rs", "monitors/mod.rs", "namespaces/mod.rs", "vigil.manifest.json"] := by
  cases manifest with
  | none => exact (List.sublist_append_left _ ["vigil.manifest.json"])
  | some m => exact List.Sublist.refl _

/-- The path of a module is that of an index when its type has the name of an index. -/
theorem modulePath_mem_fixedPaths {b : Blueprint} {manifest : Option Manifest} :
    modulePath b ∈ fixedPaths manifest ↔ Naming.snake b.name = "mod" := by
  have hfixed : modulePath b ∈
      ["mod.rs", "monitors/mod.rs", "namespaces/mod.rs", "vigil.manifest.json"] →
        Naming.snake b.name ++ ".rs" = "mod" ++ ".rs" := by
    simp only [List.mem_cons, List.not_mem_nil, or_false, ← String.toList_inj, modulePath]
    cases isMonitor b <;> simp
  constructor
  · intro hmem
    exact (String.append_left_inj _).mp (hfixed ((fixedPaths_sublist manifest).subset hmem))
  · intro hname
    cases hb : isMonitor b <;> simp [fixedPaths, modulePath, hb, hname]

section Generated

variable {bs : List Blueprint} {manifest : Option Manifest} {generated : List GeneratedFile}

/-- The modules come first, in the order of their types. -/
theorem files_eq_ok (h : files bs manifest = .ok generated) :
    ∃ modules others, generated = modules ++ others ∧ modules.map (·.path) = bs.map modulePath ∧
      others.map (·.path) = fixedPaths manifest ∧ (∀ f ∈ modules, f.primary) ∧
      (∀ b ∈ bs, HoldsModule generated b) ∧ (bs.map modulePath).Nodup := by
  obtain ⟨modules, hmodules, hok⟩ := bind_eq_ok.mp h
  cases hok
  obtain ⟨hpaths, hprimary, hheld, hdistinct, -⟩ := modulesFrom_eq_ok hmodules
  refine ⟨modules, _, List.append_assoc .., hpaths, ?_, hprimary, ?_, hdistinct⟩
  · simp [fixedPaths, Function.comp_def]
  · intro b hb
    obtain ⟨lines, hlines, hmem⟩ := hheld b hb
    exact ⟨lines, hlines, by simp [hmem]⟩

/-- The paths are distinct unless a type has the name of an index. -/
theorem paths_nodup_iff (h : files bs manifest = .ok generated) :
    (generated.map (·.path)).Nodup ↔ ∀ b ∈ bs, Naming.snake b.name ≠ "mod" := by
  obtain ⟨modules, others, rfl, hmodules, hothers, -, -, hdistinct⟩ := files_eq_ok h
  rw [List.map_append, hmodules, hothers, List.nodup_append]
  constructor
  · intro hnodup b hb hname
    exact hnodup.2.2 _ (List.mem_map_of_mem hb) _ (modulePath_mem_fixedPaths.mpr hname) rfl
  · intro hnames
    refine ⟨hdistinct, (fixedPaths_sublist manifest).nodup (by decide), ?_⟩
    rintro path hmodule _ hfixed rfl
    obtain ⟨b, hb, rfl⟩ := List.mem_map.mp hmodule
    exact hnames b hb (modulePath_mem_fixedPaths.mp hfixed)

/-! ## Places -/

/-- The path is made of names, so it is told by the place that it leads to. -/
def IsMadeOfNames (path : String) : Prop :=
  Text.join "/" (components path) = path

theorem isMadeOfNames_modulePath {b : Blueprint} (h : '/' ∉ (Naming.snake b.name).toList) :
    IsMadeOfNames (modulePath b) := by
  obtain ⟨dir, hdir, hpath⟩ : ∃ dir, IsEntryName dir ∧
      modulePath b = Text.join "/" [dir, Naming.snake b.name ++ ".rs"] := by
    unfold modulePath
    cases isMonitor b with
    | true => exact ⟨"monitors", by decide, by simp [Text.join]⟩
    | false => exact ⟨"namespaces", by decide, by simp [Text.join]⟩
  have hfile : IsEntryName (Naming.snake b.name ++ ".rs") := by
    refine ⟨?_, by simpa using h⟩
    intro hmem
    have hshort : ∀ name ∈ ["", ".", ".."], name.length < ".rs".length := by decide
    have hlength := hshort _ hmem
    rw [String.length_append] at hlength
    omega
  have hplace : components (modulePath b) = [dir, Naming.snake b.name ++ ".rs"] := by
    rw [hpath]
    exact components_join (by simp) (by simp [hdir, hfile])
  rw [IsMadeOfNames, hplace, hpath]

/-- The fixed paths lead to places of their own. -/
theorem fixedPlaces_nodup (manifest : Option Manifest) :
    ((fixedPaths manifest).map components).Nodup :=
  ((fixedPaths_sublist manifest).map components).nodup (by decide)

/-- Where no type has a slash in its name, every path is made of names. -/
theorem paths_areMadeOfNames (h : files bs manifest = .ok generated)
    (hslash : ∀ b ∈ bs, '/' ∉ (Naming.snake b.name).toList) :
    ∀ path ∈ generated.map (·.path), IsMadeOfNames path := by
  have hfixed : ∀ path ∈ ["mod.rs", "monitors/mod.rs", "namespaces/mod.rs",
      "vigil.manifest.json"], IsMadeOfNames path := by
    unfold IsMadeOfNames
    decide
  obtain ⟨modules, others, rfl, hmodules, hothers, -⟩ := files_eq_ok h
  rw [List.map_append, hmodules, hothers]
  intro path hpath
  rcases List.mem_append.mp hpath with hmodule | hother
  · obtain ⟨b, hb, rfl⟩ := List.mem_map.mp hmodule
    exact isMadeOfNames_modulePath (hslash b hb)
  · exact hfixed path ((fixedPaths_sublist manifest).subset hother)

/-- Where no type has a slash in its name, distinct paths lead to distinct places. -/
theorem places_nodup (h : files bs manifest = .ok generated)
    (hslash : ∀ b ∈ bs, '/' ∉ (Naming.snake b.name).toList)
    (hdistinct : (generated.map (·.path)).Nodup) :
    (generated.map fun f => components f.path).Nodup := by
  have hnames := paths_areMadeOfNames h hslash
  have hplaces : ((generated.map (·.path)).map components).Nodup := by
    apply List.Nodup.map_on ?_ hdistinct
    intro first hfirst second hsecond heq
    rw [← hnames first hfirst, heq, hnames second hsecond]
  rwa [List.map_map] at hplaces

end Generated

end Rendering

/-! ## Writing -/

open Rendering

/-- What is written of files: each with its path and its content. -/
def GeneratedFile.entry (f : GeneratedFile) : String × String := (f.path, f.content)

/-- The paths of the generated files are distinct unless a type has the name of an index, and
every type has its module among the files. The files are written one after the other so that the
indexes and the manifest are there in the end; where no type has the name of an index or a slash
in its name, each file stays as it was written. -/
theorem generated_files_stay_apart_unless_a_type_is_named_like_an_index {bs : List Blueprint}
    {manifest : Option Manifest} {generated : List GeneratedFile}
    (h : files bs manifest = .ok generated) :
    ((generated.map (·.path)).Nodup ↔ ∀ b ∈ bs, Naming.snake b.name ≠ "mod") ∧
    (∀ b ∈ bs, HoldsModule generated b) ∧
    ∀ below tree tree' failed,
      writeAll below (generated.map GeneratedFile.entry) tree = (tree', failed) →
        (failed = none → ∀ f ∈ generated, f.primary = false →
          tree'.get? (below ++ components f.path) = some (.file (some f.content))) ∧
        ((∀ b ∈ bs, Naming.snake b.name ≠ "mod" ∧ '/' ∉ (Naming.snake b.name).toList) →
          ∃ written rest, generated = written ++ rest ∧ failed = rest.head?.map (·.path) ∧
            ∀ f ∈ written,
              tree'.get? (below ++ components f.path) = some (.file (some f.content))) := by
  obtain ⟨modules, others, hgenerated, -, hothers, hprimary, hheld, -⟩ := files_eq_ok h
  refine ⟨paths_nodup_iff h, hheld, ?_⟩
  intro below tree tree' failed hrun
  constructor
  · rintro rfl f hf hsecond
    have hplaces : ((others.map GeneratedFile.entry).map fun e => components e.1).Nodup := by
      have hfixed := fixedPlaces_nodup manifest
      rw [← hothers, List.map_map] at hfixed
      rwa [List.map_map]
    have hlast : f ∈ others := by
      rw [hgenerated] at hf
      refine (List.mem_append.mp hf).resolve_left fun hmodule => ?_
      simp [hprimary f hmodule] at hsecond
    rw [hgenerated, List.map_append] at hrun
    exact FileTree.writeAll_complete hplaces hrun f.entry (List.mem_map_of_mem hlast)
  · intro hnames
    have hdistinct := (paths_nodup_iff h).mpr fun b hb => (hnames b hb).1
    have hplaces : ((generated.map GeneratedFile.entry).map fun e => components e.1).Nodup := by
      rw [List.map_map]
      exact places_nodup h (fun b hb => (hnames b hb).2) hdistinct
    obtain ⟨written, rest, hsplit, hfailed, hkept⟩ := FileTree.writeAll_keeps hplaces hrun
    obtain ⟨first, second, hboth, rfl, rfl⟩ := List.map_eq_append_iff.mp hsplit
    refine ⟨first, second, hboth, ?_, ?_⟩
    · rw [hfailed, List.head?_map, Option.map_map]
      rfl
    · intro f hf
      exact hkept f.entry (List.mem_map_of_mem hf)

/-- A namespace and a monitor that watches it. -/
def watchedUnits (monitor : String) : List SourceUnit :=
  [⟨some "demo", [.space ⟨"cpu", [], none⟩, .monitor ⟨monitor, ["cpu"], [], none⟩]⟩]

theorem files_of_a_watched_namespace_stay_apart :
    ∃ generated, files (Report.ofUnits (watchedUnits "CpuWatch") true).blueprints none =
        .ok generated ∧ (generated.map (·.path)).Nodup ∧
      ∃ tree, writeAll ["out"] (generated.map GeneratedFile.entry) (.dir []) = (tree, none) ∧
        ∀ f ∈ generated, tree.get? ("out" :: components f.path) = some (.file (some f.content)) := by
  have hspelled : (Report.ofUnits (watchedUnits "CpuWatch") true).blueprints.map
      (fun b => Naming.snake b.name) = ["cpu", "cpu_watch"] := rfl
  have hfree : ∀ name ∈ ["cpu", "cpu_watch"], name ≠ "mod" ∧ '/' ∉ name.toList := by decide
  have hnames : ∀ b ∈ (Report.ofUnits (watchedUnits "CpuWatch") true).blueprints,
      Naming.snake b.name ≠ "mod" ∧ '/' ∉ (Naming.snake b.name).toList :=
    fun b hb => hfree _ (hspelled ▸ List.mem_map_of_mem hb)
  obtain ⟨generated, hok, hrun⟩ : ∃ generated,
      files (Report.ofUnits (watchedUnits "CpuWatch") true).blueprints none = .ok generated ∧
        (writeAll ["out"] (generated.map GeneratedFile.entry) (.dir [])).2 = none :=
    ⟨_, rfl, rfl⟩
  obtain ⟨hpaths, -, hwrite⟩ :=
    generated_files_stay_apart_unless_a_type_is_named_like_an_index hok
  refine ⟨generated, hok, hpaths.mpr fun b hb => (hnames b hb).1, _, Prod.ext rfl hrun, ?_⟩
  obtain ⟨written, rest, hsplit, hfailed, hkept⟩ :=
    (hwrite ["out"] (.dir []) _ _ rfl).2 hnames
  have hrest : rest = [] := by simpa [hrun] using hfailed.symm
  rw [hrest, List.append_nil] at hsplit
  exact fun f hf => hkept f (hsplit ▸ hf)

/-- A monitor named `mod` is accepted and rendered, and its module is lost: the index of the
monitors has the same path and is written later. -/
theorem a_monitor_named_mod_is_overwritten_by_the_index :
    (Report.ofUnits (watchedUnits "mod") true).accepted = ["demo.cpu", "demo.mod"] ∧
      ∃ generated, files (Report.ofUnits (watchedUnits "mod") true).blueprints none =
          .ok generated ∧
        generated.map (·.path) = ["namespaces/cpu.rs", "monitors/mod.rs", "mod.rs",
          "monitors/mod.rs", "namespaces/mod.rs"] ∧
        (writeAll ["out"] (generated.map GeneratedFile.entry) (.dir [])).1.get?
          ["out", "monitors", "mod.rs"] = some (.file (some (monitorIndex ["Mod"]))) := by
  refine ⟨rfl, _, rfl, rfl, ?_⟩
  rfl

end Watchtower
