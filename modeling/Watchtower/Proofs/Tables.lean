-- Tables: lists of entries that are looked up by their names.
import Watchtower.Sorted

namespace Watchtower

variable {α : Type}

/-- Where no name stands twice, a look-up finds every entry. -/
theorem lookup_of_mem {table : List (String × α)} {name : String} {value : α}
    (hnd : (table.map (·.1)).Nodup) (h : (name, value) ∈ table) :
    table.lookup name = some value := by
  induction table with
  | nil => simp at h
  | cons entry rest ih =>
    obtain ⟨key, old⟩ := entry
    simp only [List.map_cons, List.nodup_cons] at hnd
    rcases List.mem_cons.mp h with heq | hrest
    · cases heq
      simp
    · have hne : name ≠ key := by
        rintro rfl
        exact hnd.1 (List.mem_map_of_mem hrest)
      rw [List.lookup_cons, beq_false_of_ne hne]
      exact ih hnd.2 hrest

theorem mem_of_lookup {table : List (String × α)} {name : String} {value : α}
    (h : table.lookup name = some value) : (name, value) ∈ table := by
  induction table with
  | nil => cases h
  | cons entry rest ih =>
    obtain ⟨key, old⟩ := entry
    rw [List.lookup_cons] at h
    split at h
    · rename_i heq
      cases h
      rw [eq_of_beq heq]
      exact List.mem_cons_self
    · exact List.mem_cons_of_mem _ (ih h)

/-- Where entries with one name are the same, a look-up finds every entry. -/
theorem lookup_of_unique {table : List (String × α)} {name : String} {value : α}
    (hone : ∀ e ∈ table, ∀ e' ∈ table, e.1 = e'.1 → e = e') (h : (name, value) ∈ table) :
    table.lookup name = some value := by
  obtain ⟨found, hfound⟩ : ∃ found, table.lookup name = some found := by
    rw [← Option.isSome_iff_exists, List.lookup_isSome_iff]
    exact ⟨_, h, by simp⟩
  have heq := hone _ (mem_of_lookup hfound) _ h rfl
  rw [hfound, (Prod.mk.inj heq).2]

/-- Where no name is given twice, only one item has a name. -/
theorem eq_of_nodup_filterMap {α β : Type} {f : α → Option β} {items : List α} {a a' : α} {b : β}
    (hnd : (items.filterMap f).Nodup) (ha : a ∈ items) (ha' : a' ∈ items) (hf : f a = some b)
    (hf' : f a' = some b) : a = a' := by
  induction items with
  | nil => cases ha
  | cons first rest ih =>
    have hmem : ∀ c ∈ rest, f c = some b → b ∈ rest.filterMap f :=
      fun c hc hfc => List.mem_filterMap.mpr ⟨c, hc, hfc⟩
    rcases List.mem_cons.mp ha with rfl | hrest
    · rcases List.mem_cons.mp ha' with rfl | hrest'
      · rfl
      · rw [List.filterMap_cons_some hf, List.nodup_cons] at hnd
        exact absurd (hmem a' hrest' hf') hnd.1
    · rcases List.mem_cons.mp ha' with rfl | hrest'
      · rw [List.filterMap_cons_some hf', List.nodup_cons] at hnd
        exact absurd (hmem a hrest hf) hnd.1
      · cases hfirst : f first with
        | none =>
          rw [List.filterMap_cons_none hfirst] at hnd
          exact ih hnd hrest hrest'
        | some c =>
          rw [List.filterMap_cons_some hfirst, List.nodup_cons] at hnd
          exact ih hnd.2 hrest hrest'

namespace Sorted

/-- A name that was entered is found. -/
@[simp] theorem lookup_insert_self (name : String) (value : α) (table : List (String × α)) :
    (insert name value table).lookup name = some value := by
  induction table with
  | nil => simp [insert]
  | cons entry rest ih =>
    obtain ⟨key, old⟩ := entry
    rw [insert]
    split
    · simp
    · split
      · simp
      · rename_i hne
        rw [List.lookup_cons, beq_false_of_ne hne]
        exact ih

/-- Other names are found as before. -/
theorem lookup_insert_of_ne {name other : String} (value : α) (table : List (String × α))
    (hne : other ≠ name) : (insert name value table).lookup other = table.lookup other := by
  induction table with
  | nil => simp [insert, hne]
  | cons entry rest ih =>
    obtain ⟨key, old⟩ := entry
    rw [insert]
    split
    · rw [List.lookup_cons, beq_false_of_ne hne]
    · split
      · rename_i heq
        rw [List.lookup_cons, beq_false_of_ne hne, List.lookup_cons,
          beq_false_of_ne (heq ▸ hne)]
      · rw [List.lookup_cons, List.lookup_cons, ih]

theorem mem_names_insert {name other : String} {value : α} {table : List (String × α)} :
    other ∈ (insert name value table).map (·.1) ↔ other = name ∨ other ∈ table.map (·.1) := by
  have hnames : ∀ entries : List (String × α),
      other ∈ entries.map (·.1) ↔ (entries.lookup other).isSome := by
    intro entries
    simp [List.lookup_isSome_iff]
  rw [hnames, hnames]
  by_cases hother : other = name
  · simp [hother]
  · simp [hother, lookup_insert_of_ne value table hother]

theorem mem_of_mem_insert {name : String} {value : α} {table : List (String × α)}
    {entry : String × α} (h : entry ∈ insert name value table) :
    entry = (name, value) ∨ entry ∈ table := by
  induction table with
  | nil => exact .inl (List.mem_singleton.mp h)
  | cons first rest ih =>
    obtain ⟨key, old⟩ := first
    rw [insert] at h
    split at h
    · exact List.mem_cons.mp h
    · split at h
      · rcases List.mem_cons.mp h with hnew | hrest
        · exact .inl hnew
        · exact .inr (List.mem_cons_of_mem _ hrest)
      · rcases List.mem_cons.mp h with hfirst | hrest
        · exact .inr (by simp [hfirst])
        · rcases ih hrest with hnew | hold
          · exact .inl hnew
          · exact .inr (List.mem_cons_of_mem _ hold)

/-- The names of a table ascend, so each stands once. -/
def Ascends (table : List (String × α)) : Prop :=
  (table.map (·.1)).Pairwise (· < ·)

theorem Ascends.nodup {table : List (String × α)} (h : Ascends table) :
    (table.map (·.1)).Nodup :=
  List.Pairwise.imp (fun hlt heq => absurd (heq ▸ hlt) (String.lt_irrefl _)) h

theorem Ascends.insert {table : List (String × α)} (h : Ascends table) (name : String)
    (value : α) : Ascends (insert name value table) := by
  induction table with
  | nil => simp [Ascends, Sorted.insert]
  | cons entry rest ih =>
    obtain ⟨key, old⟩ := entry
    simp only [Ascends, List.map_cons, List.pairwise_cons] at h ih
    unfold Ascends
    rw [Sorted.insert]
    split
    · rename_i hlt
      simp only [List.map_cons, List.pairwise_cons, List.mem_cons]
      refine ⟨?_, h⟩
      rintro other (rfl | hother)
      · exact hlt
      · exact String.lt_trans hlt (h.1 other hother)
    · split
      · rename_i heq
        rw [List.map_cons, List.pairwise_cons, heq]
        exact h
      · -- The new name stands behind the first, and so does all that was there.
        rename_i hlt hne
        have hkey : key < name := Std.lt_of_le_of_ne (String.not_lt.mp hlt) (Ne.symm hne)
        rw [List.map_cons, List.pairwise_cons]
        refine ⟨?_, ih h.2⟩
        intro other hother
        obtain ⟨entry, hentry, rfl⟩ := List.mem_map.mp hother
        rcases mem_of_mem_insert hentry with rfl | hold
        · exact hkey
        · exact h.1 _ (List.mem_map_of_mem hold)

theorem ofList_ascends (entries : List (String × α)) : Ascends (ofList entries) := by
  have hfold : ∀ (entries table : List (String × α)), Ascends table →
      Ascends (entries.foldl (fun table (name, value) => insert name value table) table) := by
    intro entries
    induction entries with
    | nil => exact fun table h => h
    | cons first rest ih => exact fun table h => ih _ (h.insert _ _)
  exact hfold entries [] (by simp [Ascends])

/-- A name behind all others is entered at the end. -/
theorem insert_of_forall_lt {name : String} {table : List (String × α)} (value : α)
    (h : ∀ entry ∈ table, entry.1 < name) : insert name value table = table ++ [(name, value)] := by
  induction table with
  | nil => rfl
  | cons entry rest ih =>
    obtain ⟨key, old⟩ := entry
    have hkey : key < name := h (key, old) (by simp)
    have hne : name ≠ key := by
      rintro rfl
      exact String.lt_irrefl _ hkey
    rw [insert, if_neg (String.lt_asymm hkey), if_neg hne,
      ih fun e he => h e (List.mem_cons_of_mem _ he)]
    rfl

/-- Of two values under one name the later stays. -/
theorem insert_insert (name : String) (value value' : α) (table : List (String × α)) :
    insert name value' (insert name value table) = insert name value' table := by
  have hself : ∀ {old : α} {rest : List (String × α)},
      insert name value' ((name, old) :: rest) = (name, value') :: rest := by
    intro old rest
    rw [insert, if_neg (String.lt_irrefl name), if_pos rfl]
  induction table with
  | nil => rw [insert, hself, insert]
  | cons entry rest ih =>
    obtain ⟨key, old⟩ := entry
    by_cases hlt : name < key
    · rw [insert, if_pos hlt, hself, insert, if_pos hlt]
    · by_cases heq : name = key
      · subst heq
        rw [insert, if_neg hlt, if_pos rfl, hself, hself]
      · rw [insert, if_neg hlt, if_neg heq, insert, if_neg hlt, if_neg heq, ih, insert, if_neg hlt,
          if_neg heq]

/-- A new name adds an entry, and nothing else changes. -/
theorem insert_perm {name : String} {table : List (String × α)} (value : α)
    (hnew : name ∉ table.map (·.1)) : (insert name value table).Perm ((name, value) :: table) := by
  induction table with
  | nil => exact .refl _
  | cons entry rest ih =>
    obtain ⟨key, old⟩ := entry
    simp only [List.map_cons, List.mem_cons, not_or] at hnew
    rw [insert]
    split
    · exact .refl _
    · rw [if_neg hnew.1]
      exact ((ih hnew.2).cons _).trans (.swap _ _ _)

/-- The table of entries that ascend holds them as they stand. -/
theorem ofList_of_ascends {entries : List (String × α)} (h : Ascends entries) :
    ofList entries = entries := by
  have hfold : ∀ (entries table : List (String × α)), Ascends (table ++ entries) →
      entries.foldl (fun table (name, value) => insert name value table) table =
        table ++ entries := by
    intro entries
    induction entries with
    | nil => simp
    | cons first rest ih =>
      intro table h
      obtain ⟨key, value⟩ := first
      have hsplit := h
      simp only [Ascends, List.map_append, List.map_cons, List.pairwise_append] at hsplit
      have hlast : ∀ entry ∈ table, entry.1 < key := fun entry hentry =>
        hsplit.2.2 _ (List.mem_map_of_mem hentry) _ (by simp)
      simp only [List.foldl_cons]
      rw [insert_of_forall_lt _ hlast, ih _ (by simpa using h)]
      simp
  simpa [ofList] using hfold entries [] h

/-- Of the entries with one name the last is found. -/
theorem lookup_ofList (entries : List (String × α)) (name : String) :
    (ofList entries).lookup name = entries.reverse.lookup name := by
  have hfold : ∀ (entries table : List (String × α)),
      (entries.foldl (fun table (name, value) => insert name value table) table).lookup name =
        (entries.reverse.lookup name).or (table.lookup name) := by
    intro entries
    induction entries with
    | nil => exact fun table => rfl
    | cons first rest ih =>
      intro table
      obtain ⟨key, value⟩ := first
      rw [List.foldl_cons, ih, List.reverse_cons, List.lookup_append, Option.or_assoc]
      congr 1
      by_cases hname : name = key
      · subst hname
        simp
      · rw [lookup_insert_of_ne _ _ hname, List.lookup_cons, beq_false_of_ne hname]
        rfl
  rw [ofList, hfold]
  simp

/-- A table holds nothing but the entries that it is made of. -/
theorem mem_of_mem_ofList {entries : List (String × α)} {entry : String × α}
    (h : entry ∈ ofList entries) : entry ∈ entries := by
  have hlookup := lookup_of_mem (ofList_ascends entries).nodup h
  rw [lookup_ofList] at hlookup
  exact List.mem_reverse.mp (mem_of_lookup hlookup)

/-- Where no name is given twice, a table holds what it is made of. -/
theorem lookup_ofList_iff {entries : List (String × α)} {name : String} {value : α}
    (hnd : (entries.map (·.1)).Nodup) :
    (ofList entries).lookup name = some value ↔ (name, value) ∈ entries := by
  rw [lookup_ofList]
  constructor
  · intro h
    exact List.mem_reverse.mp (mem_of_lookup h)
  · intro h
    apply lookup_of_mem
    · rw [List.map_reverse]
      exact (List.reverse_perm _).nodup_iff.mpr hnd
    · exact List.mem_reverse.mpr h

/-- Where no name is given twice, a table is made of its entries in another order. -/
theorem ofList_perm {entries : List (String × α)} (hnd : (entries.map (·.1)).Nodup) :
    (ofList entries).Perm entries := by
  have hof : ∀ {table : List (String × α)}, (table.map (·.1)).Nodup → table.Nodup :=
    fun h => List.Pairwise.imp (fun hne heq => hne (congrArg _ heq)) (List.pairwise_map.mp h)
  apply (List.perm_ext_iff_of_nodup (hof (ofList_ascends entries).nodup) (hof hnd)).mpr
  intro entry
  exact ⟨mem_of_mem_ofList, fun h => mem_of_lookup ((lookup_ofList_iff hnd).mpr h)⟩

theorem names_ofList_perm {entries : List (String × α)} (hnd : (entries.map (·.1)).Nodup) :
    ((ofList entries).map (·.1)).Perm (entries.map (·.1)) :=
  (ofList_perm hnd).map _

end Sorted

end Watchtower
