-- Writing files below a directory. Directories are made where they are missing and never take the
-- place of a file, so what is written stays until something is written in the same place.
import Watchtower.FileTree
import Watchtower.Proofs.Tables
import Watchtower.Proofs.Text.Pieces

namespace Watchtower.FileTree

open Text (join)

/-! ## Places -/

/-- The text can be the name of an entry of a directory: it is a name, and leads neither nowhere
nor upwards. -/
def IsEntryName (name : String) : Prop :=
  name ∉ ["", ".", ".."] ∧ '/' ∉ name.toList

instance (name : String) : Decidable (IsEntryName name) :=
  inferInstanceAs (Decidable (_ ∧ _))

/-- A path that is made of names consists of them. -/
theorem components_join {names : List String} (hne : names ≠ [])
    (h : ∀ name ∈ names, IsEntryName name) : components (join "/" names) = names := by
  have hfold : ∀ (rest before : List String), (∀ name ∈ rest, IsEntryName name) →
      rest.foldl (fun names name =>
        if name = "" ∨ name = "." then names
        else if name = ".." then names.drop 1
        else name :: names) before = rest.reverse ++ before := by
    intro rest
    induction rest with
    | nil => exact fun before _ => rfl
    | cons name rest ih =>
      intro before h
      obtain ⟨hname, -⟩ := h name (by simp)
      simp only [List.mem_cons, List.not_mem_nil, or_false, not_or] at hname
      rw [List.foldl_cons, if_neg (by simp [hname]), if_neg hname.2.2,
        ih _ fun other hother => h other (by simp [hother])]
      simp
  have hsep : "/" = String.singleton '/' := rfl
  unfold components
  rw [hsep, Text.split_join hne fun name hname => (h name hname).2, hfold names [] h]
  simp

/-! ## Entries -/

@[simp] theorem get?_nil (tree : FileTree) : tree.get? [] = some tree := by
  cases tree <;> rfl

theorem get?_insert_self (name : String) (path : List String) (child : FileTree)
    (entries : List (String × FileTree)) :
    (dir (Sorted.insert name child entries)).get? (name :: path) = child.get? path := by
  simp [get?]

theorem get?_insert_of_ne {name other : String} (hne : other ≠ name) (path : List String)
    (child : FileTree) (entries : List (String × FileTree)) :
    (dir (Sorted.insert name child entries)).get? (other :: path) =
      (dir entries).get? (other :: path) := by
  simp [get?, Sorted.lookup_insert_of_ne child entries hne]

/-- What is below an entry is below what the directory has under its name. -/
theorem get?_cons_eq_some {name : String} {path : List String} {found : FileTree}
    {entries : List (String × FileTree)} :
    (dir entries).get? (name :: path) = some found ↔
      ∃ child, entries.lookup name = some child ∧ child.get? path = some found := by
  simp [get?, Option.bind_eq_some_iff]

/-! ## Directories -/

/-- A directory is made beside what is there. -/
theorem get?_of_makeDir? {path place : List String} {tree tree' : FileTree}
    {text : Option String} (hmade : tree.makeDir? path = some tree')
    (hthere : tree.get? place = some (.file text)) : tree'.get? place = some (.file text) := by
  induction path generalizing tree tree' place with
  | nil =>
    cases tree with
    | file other => simp [makeDir?] at hmade
    | dir entries =>
      simp only [makeDir?, Option.some.injEq] at hmade
      exact hmade ▸ hthere
  | cons name path ih =>
    cases tree with
    | file other => simp [makeDir?] at hmade
    | dir entries =>
      rw [makeDir?] at hmade
      split at hmade
      · obtain ⟨child, hchild, rfl⟩ := Option.map_eq_some_iff.mp hmade
        cases place with
        | nil => simp at hthere
        | cons other place =>
          by_cases hother : other = name
          · subst hother
            obtain ⟨old, hold, hfound⟩ := get?_cons_eq_some.mp hthere
            rw [hold, Option.getD_some] at hchild
            rw [get?_insert_self]
            exact ih hchild hfound
          · rwa [get?_insert_of_ne hother]
      · cases hmade

/-! ## Files -/

/-- A file that was written is there. -/
theorem get?_write?_self {content : Option String} {path : List String} {tree tree' : FileTree}
    (h : tree.write? content path = some tree') : tree'.get? path = some (.file content) := by
  induction path generalizing tree tree' with
  | nil => cases tree <;> simp [write?] at h
  | cons name path ih =>
    cases tree with
    | file other => simp [write?] at h
    | dir entries =>
      cases path with
      | nil =>
        rw [write?] at h
        split at h
        · cases h
        · split at h
          · cases h
            simp [get?_insert_self]
          · cases h
      | cons next path =>
        rw [write?] at h
        obtain ⟨child, hchild, rfl⟩ := Option.map_eq_some_iff.mp h
        obtain ⟨old, -, hwritten⟩ := Option.bind_eq_some_iff.mp hchild
        rw [get?_insert_self]
        exact ih hwritten

/-- A file is written beside the files at other places. -/
theorem get?_write?_of_ne {content text : Option String} {path place : List String}
    {tree tree' : FileTree} (hne : place ≠ path) (hwritten : tree.write? content path = some tree')
    (hthere : tree.get? place = some (.file text)) : tree'.get? place = some (.file text) := by
  induction path generalizing tree tree' place with
  | nil => cases tree <;> simp [write?] at hwritten
  | cons name path ih =>
    cases tree with
    | file other => simp [write?] at hwritten
    | dir entries =>
      cases place with
      | nil => simp at hthere
      | cons other place =>
        have hkept : ∀ child, other ≠ name →
            (dir (Sorted.insert name child entries)).get? (other :: place) = some (.file text) :=
          fun child hother => (get?_insert_of_ne hother place child entries).trans hthere
        cases path with
        | nil =>
          rw [write?] at hwritten
          split at hwritten
          · cases hwritten
          · rename_i hfile
            split at hwritten
            · cases hwritten
              apply hkept
              rintro rfl
              -- Below the name there is nothing but a file, so the place is that of the file.
              obtain ⟨old, hold, hfound⟩ := get?_cons_eq_some.mp hthere
              cases place with
              | nil => exact hne rfl
              | cons next place =>
                cases old with
                | file former => simp [get?] at hfound
                | dir inner => exact hfile inner hold
            · cases hwritten
        | cons next path =>
          rw [write?] at hwritten
          obtain ⟨child, hchild, rfl⟩ := Option.map_eq_some_iff.mp hwritten
          obtain ⟨old, hold, hinner⟩ := Option.bind_eq_some_iff.mp hchild
          by_cases hother : other = name
          · subst hother
            obtain ⟨_, hsame, hfound⟩ := get?_cons_eq_some.mp hthere
            cases hold.symm.trans hsame
            rw [get?_insert_self]
            exact ih (fun heq => hne (by rw [heq])) hinner hfound
          · exact hkept child hother

/-! ## Runs -/

/-- Files that are written stay while others are written in other places. -/
theorem get?_writeAll_of_not_mem {below place : List String} {text : Option String}
    {files : List (String × String)} {tree tree' : FileTree} {failed : Option String}
    (hplace : ∀ f ∈ files, place ≠ below ++ components f.1)
    (hrun : writeAll below files tree = (tree', failed))
    (hthere : tree.get? place = some (.file text)) : tree'.get? place = some (.file text) := by
  induction files generalizing tree with
  | nil =>
    cases hrun
    exact hthere
  | cons f rest ih =>
    obtain ⟨path, content⟩ := f
    rw [writeAll] at hrun
    split at hrun
    · cases hrun
      exact hthere
    · rename_i made hmade
      have hmore := get?_of_makeDir? hmade hthere
      split at hrun
      · cases hrun
        exact hmore
      · rename_i written hwritten
        exact ih (fun g hg => hplace g (by simp [hg])) hrun
          (get?_write?_of_ne (hplace (path, content) (by simp)) hwritten hmore)

/-- Of files for distinct places the first ones are there in the end, and the run ends before the
first one that cannot be written. -/
theorem writeAll_keeps {below : List String} {files : List (String × String)}
    {tree tree' : FileTree} {failed : Option String}
    (hplaces : (files.map fun f => components f.1).Nodup)
    (hrun : writeAll below files tree = (tree', failed)) :
    ∃ written rest, files = written ++ rest ∧ failed = rest.head?.map (·.1) ∧
      ∀ f ∈ written, tree'.get? (below ++ components f.1) = some (.file (some f.2)) := by
  induction files generalizing tree with
  | nil =>
    cases hrun
    exact ⟨[], [], rfl, rfl, by simp⟩
  | cons f others ih =>
    obtain ⟨path, content⟩ := f
    rw [List.map_cons, List.nodup_cons] at hplaces
    rw [writeAll] at hrun
    split at hrun
    · cases hrun
      exact ⟨[], _, rfl, rfl, by simp⟩
    · split at hrun
      · cases hrun
        exact ⟨[], _, rfl, rfl, by simp⟩
      · rename_i now hwritten
        obtain ⟨written, rest, rfl, hfailed, hkept⟩ := ih hplaces.2 hrun
        refine ⟨(path, content) :: written, rest, rfl, hfailed, ?_⟩
        intro f hf
        rcases List.mem_cons.mp hf with rfl | hf
        · apply get?_writeAll_of_not_mem ?_ hrun (get?_write?_self hwritten)
          intro g hg heq
          exact hplaces.1 (List.mem_map.mpr ⟨g, hg, (List.append_cancel_left heq).symm⟩)
        · exact hkept f hf

/-- Files for distinct places are there when all were written, whatever was written before. -/
theorem writeAll_complete {below : List String} {before files : List (String × String)}
    {tree tree' : FileTree} (hplaces : (files.map fun f => components f.1).Nodup)
    (hrun : writeAll below (before ++ files) tree = (tree', none)) :
    ∀ f ∈ files, tree'.get? (below ++ components f.1) = some (.file (some f.2)) := by
  induction before generalizing tree with
  | nil =>
    obtain ⟨written, rest, rfl, hfailed, hkept⟩ := writeAll_keeps hplaces hrun
    have hrest : rest = [] := by simpa using hfailed.symm
    simpa [hrest] using hkept
  | cons f before ih =>
    obtain ⟨path, content⟩ := f
    rw [List.cons_append, writeAll] at hrun
    split at hrun
    · cases hrun
    · split at hrun
      · cases hrun
      · exact ih hrun

end Watchtower.FileTree
