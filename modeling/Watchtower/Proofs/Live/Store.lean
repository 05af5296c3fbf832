-- What a store holds after variables were registered. The first registration of a name counts,
-- in memory as in a database; only what can be read again differs, since a database keeps texts.
import Watchtower.Live.World
import Watchtower.Proofs.Outcome
import Watchtower.Proofs.Tables

namespace Watchtower

variable {α : Type}

/-! ## Tables to which names are added once -/

namespace Sorted

/-- Enters a value under a name, unless there is one. -/
def enter (table : List (String × α)) (entry : String × α) : List (String × α) :=
  if (table.lookup entry.1).isSome then table else insert entry.1 entry.2 table

theorem lookup_enter (table : List (String × α)) (entry : String × α) (name : String) :
    (enter table entry).lookup name = (table.lookup name).or ([entry].lookup name) := by
  obtain ⟨key, value⟩ := entry
  unfold enter
  by_cases hname : name = key
  · subst hname
    cases hfound : table.lookup name with
    | none => simp
    | some old => simp [hfound]
  · have hother : [(key, value)].lookup name = none := by
      rw [List.lookup_cons, beq_false_of_ne hname]
      rfl
    rw [hother, Option.or_none]
    split
    · rfl
    · exact lookup_insert_of_ne value table hname

theorem Ascends.enter {table : List (String × α)} (h : Ascends table) (entry : String × α) :
    Ascends (enter table entry) := by
  unfold Sorted.enter
  split
  · exact h
  · exact h.insert entry.1 entry.2

/-- What was there is found, and of what was entered the first entry with a name. -/
theorem lookup_foldl_enter (table entries : List (String × α)) (name : String) :
    (entries.foldl enter table).lookup name = (table.lookup name).or (entries.lookup name) := by
  induction entries generalizing table with
  | nil => simp
  | cons entry rest ih =>
    have hcons : (entry :: rest).lookup name = ([entry].lookup name).or (rest.lookup name) := by
      rw [← List.lookup_append]
      rfl
    rw [List.foldl_cons, ih, lookup_enter, Option.or_assoc, hcons]

theorem Ascends.foldl_enter {table : List (String × α)} (h : Ascends table)
    (entries : List (String × α)) : Ascends (entries.foldl Sorted.enter table) := by
  induction entries generalizing table with
  | nil => exact h
  | cons entry rest ih => exact ih (h.enter entry)

end Sorted

namespace Live.Store

/-! ## Views of a store -/

/-- The names of the variables that a store holds. -/
def names : Store → List String
  | .memory vars => vars.map (·.1)
  | .database data => data.rows.map (·.1)

/-- The store holds a variable with this value. A database holds the text of the value. -/
def Holds (s : Store) (name : String) (value : Json) (writable : Bool) : Prop :=
  match s with
  | .memory vars => vars.lookup name = some (value, writable)
  | .database data => data.rows.lookup name = some (value.compact, writable)

/-- What can be read of a value that was handed to the store: in memory the value itself, in a
database what its text is read as. -/
def readBack (s : Store) (value : Json) : Except Fault Json :=
  match s with
  | .memory _ => .ok value
  | .database _ => readText value.compact

theorem get_of_holds {s : Store} {name : String} {value : Json} {writable : Bool}
    (h : s.Holds name value writable) : s.get name = s.readBack value := by
  cases s with
  | memory vars =>
    unfold Holds at h
    simp only [get, h, readBack]
  | database data =>
    unfold Holds at h
    simp only [get, h, readBack]

/-! ## Registering -/

/-- The text of an entry in a database. -/
def asText (entry : String × Json × Bool) : String × String × Bool :=
  (entry.1, entry.2.1.compact, entry.2.2)

theorem register_memory (vars : List (String × Json × Bool)) (name : String) (value : Json)
    (writable : Bool) : ((memory vars).register name value writable).2 =
      memory (Sorted.enter vars (name, value, writable)) := by
  simp only [register, Sorted.enter]
  split <;> rfl

theorem register_database (data : Database) (name : String) (value : Json) (writable : Bool) :
    ((database data).register name value writable).2 =
      database { data with rows := Sorted.enter data.rows (asText (name, value, writable)) } := by
  have htext : asText (name, value, writable) = (name, value.compact, writable) := rfl
  simp only [register, Sorted.enter, htext]
  by_cases h : (data.rows.lookup name).isSome
  · rw [if_pos h, if_pos h]
  · rw [if_neg h, if_neg h]

theorem registerAll_memory (vars entries : List (String × Json × Bool)) :
    (memory vars).registerAll entries = memory (entries.foldl Sorted.enter vars) := by
  unfold registerAll
  induction entries generalizing vars with
  | nil => rfl
  | cons entry rest ih =>
    simp only [List.foldl_cons]
    rw [register_memory, ih]

theorem registerAll_database (data : Database) (entries : List (String × Json × Bool)) :
    (database data).registerAll entries =
      database { data with rows := (entries.map asText).foldl Sorted.enter data.rows } := by
  unfold registerAll
  induction entries generalizing data with
  | nil => rfl
  | cons entry rest ih =>
    simp only [List.map_cons, List.foldl_cons]
    rw [register_database, ih]

theorem lookup_asText (entries : List (String × Json × Bool)) (name : String) :
    (entries.map asText).lookup name =
      (entries.lookup name).map fun (value, writable) => (value.compact, writable) := by
  induction entries with
  | nil => rfl
  | cons entry rest ih =>
    rw [List.map_cons, List.lookup_cons, List.lookup_cons, ih]
    unfold asText
    cases name == entry.1 <;> rfl

/-- The names of the entries become those of an empty table, each once. -/
theorem names_of_entries (entries : List (String × α)) :
    ((entries.foldl Sorted.enter []).map (·.1)).Pairwise (· < ·) ∧
      ∀ name, name ∈ (entries.foldl Sorted.enter []).map (·.1) ↔ name ∈ entries.map (·.1) := by
  refine ⟨Sorted.Ascends.foldl_enter (by simp [Sorted.Ascends]) entries, ?_⟩
  have hmem : ∀ (table : List (String × α)) (name : String),
      name ∈ table.map (·.1) ↔ (table.lookup name).isSome := by
    intro table name
    rw [List.lookup_isSome_iff, List.mem_map]
    simp only [beq_iff_eq, @eq_comm _ name]
  intro name
  rw [hmem, hmem, Sorted.lookup_foldl_enter]
  simp

/-- An empty store into which variables are entered, none of them twice with another value, holds
just these, sorted by their names. -/
theorem registerAll_of_isEmpty {s : Store} (hempty : s.names = [])
    {entries : List (String × Json × Bool)}
    (hone : ∀ e ∈ entries, ∀ e' ∈ entries, e.1 = e'.1 → e = e') :
    (s.registerAll entries).names.Pairwise (· < ·) ∧
      (∀ name, name ∈ (s.registerAll entries).names ↔ name ∈ entries.map (·.1)) ∧
      (∀ name value writable, (name, value, writable) ∈ entries →
        (s.registerAll entries).Holds name value writable) ∧
      ∀ value, (s.registerAll entries).readBack value = s.readBack value := by
  have hlookup : ∀ name value writable, (name, value, writable) ∈ entries →
      entries.lookup name = some (value, writable) :=
    fun _ _ _ hmem => lookup_of_unique hone hmem
  cases s with
  | memory vars =>
    obtain rfl : vars = [] := List.map_eq_nil_iff.mp hempty
    rw [registerAll_memory]
    obtain ⟨hsorted, hnames⟩ := names_of_entries entries
    refine ⟨hsorted, hnames, ?_, fun _ => rfl⟩
    intro name value writable hmem
    show (entries.foldl Sorted.enter []).lookup name = _
    rw [Sorted.lookup_foldl_enter]
    simpa using hlookup name value writable hmem
  | database data =>
    obtain ⟨rows, version⟩ := data
    obtain rfl : rows = [] := List.map_eq_nil_iff.mp hempty
    rw [registerAll_database]
    obtain ⟨hsorted, hnames⟩ := names_of_entries (entries.map asText)
    refine ⟨hsorted, ?_, ?_, fun _ => rfl⟩
    · intro name
      have htexts : (entries.map asText).map (·.1) = entries.map (·.1) := by
        rw [List.map_map]
        rfl
      rw [← htexts]
      exact hnames name
    · intro name value writable hmem
      show ((entries.map asText).foldl Sorted.enter []).lookup name = _
      rw [Sorted.lookup_foldl_enter, lookup_asText, hlookup name value writable hmem]
      rfl

/-! ## Entries -/

/-- What a store keeps of a value: the value itself, or its text. -/
inductive Kept where
  | value (value : Json)
  | text (text : String)

/-- What is read of it. -/
def Kept.read : Kept → Except Fault Json
  | .value given => .ok given
  | .text written => readText written

/-- What the store keeps of a value that is handed to it. -/
def keeps (s : Store) (value : Json) : Kept :=
  match s with
  | .memory _ => .value value
  | .database _ => .text value.compact

/-- What the store keeps under a name, and whether it is marked as writable. -/
def kept? (s : Store) (name : String) : Option (Kept × Bool) :=
  match s with
  | .memory vars => (vars.lookup name).map fun (value, writable) => (.value value, writable)
  | .database data => (data.rows.lookup name).map fun (text, writable) => (.text text, writable)

/-- The store with a value under a name, whatever was there. -/
def put (s : Store) (name : String) (value : Json) (writable : Bool) : Store :=
  match s with
  | .memory vars => .memory (Sorted.insert name (value, writable) vars)
  | .database data => .database { data with
      rows := Sorted.insert name (value.compact, writable) data.rows }

@[simp] theorem read_keeps (s : Store) (value : Json) :
    (s.keeps value).read = s.readBack value := by
  cases s <;> rfl

theorem get_of_kept {s : Store} {name : String} {kept : Kept} {writable : Bool}
    (h : s.kept? name = some (kept, writable)) : s.get name = kept.read := by
  cases s with
  | memory vars =>
    obtain ⟨⟨value, flag⟩, hlookup, heq⟩ := Option.map_eq_some_iff.mp h
    cases heq
    simp only [get, hlookup, Kept.read]
  | database data =>
    obtain ⟨⟨text, flag⟩, hlookup, heq⟩ := Option.map_eq_some_iff.mp h
    cases heq
    simp only [get, hlookup, Kept.read]

/-- What is kept in memory can be read. -/
theorem succeeds_read_memory (vars : List (String × Json × Bool)) (name : String) (value : Json) :
    Succeeds (((memory vars).kept? name).getD ((memory vars).keeps value, false)).1.read := by
  simp only [kept?, keeps]
  cases vars.lookup name with
  | none => exact succeeds_ok value
  | some found => exact succeeds_ok found.1

/-- A write puts its value where another was, if that one can be read, and gives that one. -/
theorem set_of_kept {s : Store} {name : String} {kept : Kept} {writable : Bool}
    (h : s.kept? name = some (kept, writable)) (value : Json) :
    s.set name value = kept.read.map fun previous => (previous, s.put name value writable) := by
  cases s with
  | memory vars =>
    obtain ⟨⟨old, flag⟩, hlookup, heq⟩ := Option.map_eq_some_iff.mp h
    cases heq
    simp only [set, hlookup, Kept.read, put, Except.map]
  | database data =>
    obtain ⟨⟨text, flag⟩, hlookup, heq⟩ := Option.map_eq_some_iff.mp h
    cases heq
    simp only [set, hlookup, Kept.read, put]
    cases readText text <;> rfl

@[simp] theorem keeps_put (s : Store) (name : String) (value : Json) (writable : Bool) :
    (s.put name value writable).keeps = s.keeps := by
  cases s <;> rfl

/-- A value that is put under a name is there, and all else stays. -/
theorem kept_put (s : Store) (name : String) (value : Json) (writable : Bool) (other : String) :
    (s.put name value writable).kept? other =
      if other = name then some (s.keeps value, writable) else s.kept? other := by
  by_cases hother : other = name
  · subst hother
    cases s <;> simp [put, kept?, keeps]
  · cases s <;> simp [put, kept?, hother, Sorted.lookup_insert_of_ne]

@[simp] theorem keeps_registerAll (s : Store) (entries : List (String × Json × Bool)) :
    (s.registerAll entries).keeps = s.keeps := by
  cases s with
  | memory vars => rw [registerAll_memory]; rfl
  | database data => rw [registerAll_database]; rfl

/-- What was there stays, and what is entered under another name is kept. -/
theorem kept_registerAll (s : Store) (entries : List (String × Json × Bool)) (name : String) :
    (s.registerAll entries).kept? name = (s.kept? name).or
      ((entries.lookup name).map fun (value, writable) => (s.keeps value, writable)) := by
  cases s with
  | memory vars =>
    rw [registerAll_memory]
    simp only [kept?, keeps, Sorted.lookup_foldl_enter, Option.map_or]
  | database data =>
    rw [registerAll_database]
    simp only [kept?, keeps, Sorted.lookup_foldl_enter, Option.map_or, lookup_asText,
      Option.map_map]
    rfl

end Live.Store

/-! ## Stores of a world -/

namespace Live.World

open Store (Kept)

theorem storeGet_of_store {w : World} {number : Nat} {s : Store}
    (hstore : w.stores[number]? = some s) (name : String) : w.storeGet number name = s.get name := by
  unfold storeGet store
  rw [hstore]
  rfl

theorem storeSet_of_kept {w : World} {number : Nat} {s : Store} {name : String} {kept : Kept}
    {writable : Bool} (hstore : w.stores[number]? = some s)
    (hkept : s.kept? name = some (kept, writable)) (value : Json) :
    w.storeSet number name value = kept.read.map fun previous =>
      (previous, { w with stores := w.stores.set number (s.put name value writable) }) := by
  unfold storeSet store
  rw [hstore]
  simp only [bind, Except.bind, Store.set_of_kept hkept]
  cases kept.read <;> rfl

/-- A write through a connection: first the store, then the bus. -/
theorem connectionSet_of_kept {w : World} {c : Connection} {s : Store} {name : String}
    {kept : Kept} {writable : Bool} (hstore : w.stores[c.store]? = some s)
    (hkept : s.kept? name = some (kept, writable)) (value : Json) :
    w.connectionSet c name value = kept.read.map fun previous => (previous, { w with
      stores := w.stores.set c.store (s.put name value writable)
      bus := (w.bus.publish c.exchange c.space (c.change name previous value)).2 }) := by
  unfold connectionSet
  rw [storeSet_of_kept hstore hkept]
  cases kept.read <;> rfl

end Live.World

end Watchtower
