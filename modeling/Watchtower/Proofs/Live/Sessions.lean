-- A store in memory and a database answer alike. The database holds the texts of just those
-- values that the other holds, and exact values are read back from their texts; a file that is
-- closed and opened again holds what it held.
import Watchtower.Live.Bench
import Watchtower.Proofs.Json.Reading
import Watchtower.Proofs.Live.Store

namespace Watchtower.Live

/-! ## Calls -/

/-- A call of a store. -/
inductive StoreCall where
  | register (name : String) (value : Json) (writable : Bool)
  | get (name : String)
  | set (name : String) (value : Json)
  | entries

/-- What a store answers to a call: whether a variable was entered, the value that it holds or
held, or all variables. -/
inductive StoreAnswer where
  | entered (isNew : Bool)
  | value (value : Json)
  | entries (entries : List VariableEntry)

/-- The value that comes with a call is exact. -/
def StoreCall.isExact : StoreCall → Bool
  | .register _ value _ => value.isExact Json.maxDepth
  | .get _ => true
  | .set _ value => value.isExact Json.maxDepth
  | .entries => true

namespace Store

/-- Makes a call on a store. A fault leaves it as it was. -/
def call (s : Store) : StoreCall → Except Fault StoreAnswer × Store
  | .register name value writable =>
    let (isNew, s) := s.register name value writable
    (.ok (.entered isNew), s)
  | .get name => ((s.get name).map .value, s)
  | .set name value =>
    match s.set name value with
    | .ok (previous, s) => (.ok (.value previous), s)
    | .error fault => (.error fault, s)
  | .entries => (s.entries.map .entries, s)

/-- Makes calls on a store, one after the other. -/
def calls (s : Store) : List StoreCall → List (Except Fault StoreAnswer) × Store
  | [] => ([], s)
  | call :: rest =>
    let (answer, s) := s.call call
    let (answers, s) := s.calls rest
    (answer :: answers, s)

theorem calls_append (s : Store) (first rest : List StoreCall) :
    s.calls (first ++ rest) =
      ((s.calls first).1 ++ ((s.calls first).2.calls rest).1,
        ((s.calls first).2.calls rest).2) := by
  induction first generalizing s with
  | nil => rfl
  | cons call others ih => simp [calls, ih]

end Store

namespace World

/-- Makes a call on a store of the world. -/
def callStore (w : World) (store : Nat) : StoreCall → Except Fault (StoreAnswer × World)
  | .register name value writable => do
    let (isNew, w) ← w.register store name value writable
    return (.entered isNew, w)
  | .get name => do return (.value (← w.storeGet store name), w)
  | .set name value => do
    let (previous, w) ← w.storeSet store name value
    return (.value previous, w)
  | .entries => do return (.entries (← (← w.store store).entries), w)

end World

namespace Bench

/-- Makes a call on the open store. A fault leaves all as it was. -/
def call (b : Bench) (call : StoreCall) : Except Fault StoreAnswer × Bench :=
  match b.store with
  | none => (.error .storage, b)
  | some number =>
    match b.world.callStore number call with
    | .ok (answer, w) => (.ok answer, { b with world := w })
    | .error fault => (.error fault, b)

/-- Makes calls on the open store, one after the other. -/
def calls (b : Bench) : List StoreCall → List (Except Fault StoreAnswer) × Bench
  | [] => ([], b)
  | call :: rest =>
    let (answer, b) := b.call call
    let (answers, b) := b.calls rest
    (answer :: answers, b)

/-- Opens a store for each list of calls, makes them and closes the store, and gives all answers.
It fails when a store cannot be opened. -/
def sessions (b : Bench) (kind : StoreKind) :
    List (List StoreCall) → Except Fault (List (Except Fault StoreAnswer))
  | [] => .ok []
  | calls :: rest =>
    match b.openStore kind with
    | (.error fault, _) => .error fault
    | (.ok (), b) => do
      let (answers, b) := b.calls calls
      return answers ++ (← b.closeStore.sessions kind rest)

end Bench

/-! ## A database beside a store in memory -/

/-- The database holds the texts of the variables, and each can be read. -/
structure Database.Writes (data : Database) (vars : List (String × Json × Bool)) : Prop where
  rows : data.rows = vars.map Store.asText
  exact : ∀ entry ∈ vars, entry.2.1.isExact Json.maxDepth

namespace Store

theorem readText_compact {value : Json} (h : value.isExact Json.maxDepth) :
    readText value.compact = .ok value := by
  simp [readText, Json.ofText_compact h]

theorem map_asText_insert (name : String) (value : Json) (writable : Bool)
    (vars : List (String × Json × Bool)) :
    (Sorted.insert name (value, writable) vars).map asText =
      Sorted.insert name (value.compact, writable) (vars.map asText) := by
  induction vars with
  | nil => rfl
  | cons entry rest ih =>
    obtain ⟨key, old⟩ := entry
    simp only [Sorted.insert, List.map_cons, asText]
    split
    · rfl
    · split
      · rfl
      · simp [ih, asText]

end Store

open Store (asText map_asText_insert lookup_asText readText_compact)

namespace Database.Writes

variable {data : Database} {vars : List (String × Json × Bool)}

theorem lookup (h : data.Writes vars) (name : String) :
    data.rows.lookup name = (vars.lookup name).map fun (value, writable) =>
      (value.compact, writable) := by
  rw [h.rows, lookup_asText]

theorem exact_of_lookup (h : data.Writes vars) {name : String} {value : Json} {writable : Bool}
    (hfound : vars.lookup name = some (value, writable)) : value.isExact Json.maxDepth :=
  h.exact _ (mem_of_lookup hfound)

theorem insert (h : data.Writes vars) (name : String) {value : Json}
    (hvalue : value.isExact Json.maxDepth) (writable : Bool) :
    { data with rows := Sorted.insert name (value.compact, writable) data.rows : Database }.Writes
      (Sorted.insert name (value, writable) vars) := by
  refine ⟨by rw [h.rows, map_asText_insert], ?_⟩
  intro entry hentry
  rcases Sorted.mem_of_mem_insert hentry with rfl | hold
  · exact hvalue
  · exact h.exact entry hold

theorem get (h : data.Writes vars) (name : String) :
    (Store.database data).get name = (Store.memory vars).get name := by
  have hlookup := h.lookup name
  cases hfound : vars.lookup name with
  | none => simp [Store.get, hlookup, hfound]
  | some found => simp [Store.get, hlookup, hfound, readText_compact (h.exact_of_lookup hfound)]

theorem entries (h : data.Writes vars) :
    (Store.database data).entries = (Store.memory vars).entries := by
  obtain ⟨hrows, hexact⟩ := h
  obtain ⟨rows, version⟩ := data
  subst hrows
  simp only [Store.entries]
  induction vars with
  | nil => rfl
  | cons entry rest ih =>
    have hread := readText_compact (hexact entry (by simp))
    have hrest := ih fun e he => hexact e (List.mem_cons_of_mem _ he)
    rw [List.map_cons, List.mapM_cons, hrest]
    simp only [asText, hread]
    rfl

/-- A variable is new for both or for none. -/
theorem register (h : data.Writes vars) (name : String) {value : Json}
    (hvalue : value.isExact Json.maxDepth) (writable : Bool) :
    ∃ isNew vars' data', (Store.memory vars).register name value writable =
        (isNew, .memory vars') ∧
      (Store.database data).register name value writable = (isNew, .database data') ∧
      data'.Writes vars' ∧ data'.version = data.version := by
  have hlookup := h.lookup name
  cases hfound : vars.lookup name with
  | some found =>
    refine ⟨false, vars, data, ?_, ?_, h, rfl⟩
    · simp [Store.register, hfound]
    · simp [Store.register, hlookup, hfound]
  | none =>
    refine ⟨true, _, _, ?_, ?_, h.insert name hvalue writable, rfl⟩
    · simp [Store.register, hfound]
    · simp [Store.register, hlookup, hfound]

/-- Both have the variable, and give the value that it held, or none of them has it. -/
theorem set (h : data.Writes vars) (name : String) {value : Json}
    (hvalue : value.isExact Json.maxDepth) :
    (∃ previous vars' data', (Store.memory vars).set name value = .ok (previous, .memory vars') ∧
      (Store.database data).set name value = .ok (previous, .database data') ∧
      data'.Writes vars' ∧ data'.version = data.version) ∨
    (Store.memory vars).set name value = .error (.unknownVariable name) ∧
      (Store.database data).set name value = .error (.unknownVariable name) := by
  have hlookup := h.lookup name
  cases hfound : vars.lookup name with
  | some found =>
    have hread := readText_compact (h.exact_of_lookup hfound)
    refine .inl ⟨found.1, _, _, ?_, ?_, h.insert name hvalue found.2, rfl⟩
    · simp [Store.set, hfound]
    · simp [Store.set, hlookup, hfound, hread, bind, Except.bind, pure, Except.pure]
  | none =>
    refine .inr ⟨?_, ?_⟩
    · simp [Store.set, hfound]
    · simp [Store.set, hlookup, hfound]

/-- Both answer a call alike, and the database still holds the texts of the variables. -/
theorem call (h : data.Writes vars) {call : StoreCall} (hcall : call.isExact) :
    ∃ answer vars' data', (Store.memory vars).call call = (answer, .memory vars') ∧
      (Store.database data).call call = (answer, .database data') ∧ data'.Writes vars' ∧
      data'.version = data.version := by
  cases call with
  | register name value writable =>
    obtain ⟨isNew, vars', data', hmemory, hdatabase, hwrites, hversion⟩ :=
      h.register name hcall writable
    exact ⟨.ok (.entered isNew), vars', data', by simp [Store.call, hmemory],
      by simp [Store.call, hdatabase], hwrites, hversion⟩
  | get name => exact ⟨_, vars, data, rfl, by simp only [Store.call, h.get], h, rfl⟩
  | set name value =>
    obtain ⟨previous, vars', data', hmemory, hdatabase, hwrites, hversion⟩ | ⟨hmemory, hdatabase⟩ :=
      h.set name hcall
    · exact ⟨.ok (.value previous), vars', data', by simp [Store.call, hmemory],
        by simp [Store.call, hdatabase], hwrites, hversion⟩
    · exact ⟨.error (.unknownVariable name), vars, data, by simp [Store.call, hmemory],
        by simp [Store.call, hdatabase], h, rfl⟩
  | entries => exact ⟨_, vars, data, rfl, by simp only [Store.call, h.entries], h, rfl⟩

/-- Both answer calls alike, one after the other. -/
theorem calls (h : data.Writes vars) {calls : List StoreCall} (hcalls : ∀ c ∈ calls, c.isExact) :
    ∃ answers vars' data', (Store.memory vars).calls calls = (answers, .memory vars') ∧
      (Store.database data).calls calls = (answers, .database data') ∧ data'.Writes vars' ∧
      data'.version = data.version := by
  induction calls generalizing vars data with
  | nil => exact ⟨[], vars, data, rfl, rfl, h, rfl⟩
  | cons first rest ih =>
    obtain ⟨answer, vars', data', hmemory, hdatabase, hwrites, hversion⟩ :=
      h.call (hcalls first (by simp))
    obtain ⟨answers, vars'', data'', hmemory', hdatabase', hwrites', hversion'⟩ :=
      ih hwrites fun c hc => hcalls c (List.mem_cons_of_mem _ hc)
    exact ⟨answer :: answers, vars'', data'', by simp [Store.calls, hmemory, hmemory'],
      by simp [Store.calls, hdatabase, hdatabase'], hwrites', hversion'.trans hversion⟩

end Database.Writes

/-- The only fault of a store in memory is that it has no variable of a name. -/
theorem Store.fault_of_memory {vars : List (String × Json × Bool)} {call : StoreCall}
    {fault : Fault} (h : ((memory vars).call call).1 = .error fault) :
    ∃ name, fault = .unknownVariable name := by
  cases call with
  | register name value writable => cases h
  | get name =>
    cases hfound : vars.lookup name with
    | none => exact ⟨name, by simpa [Store.call, Store.get, hfound, Except.map] using h.symm⟩
    | some found => simp [Store.call, Store.get, hfound, Except.map] at h
  | set name value =>
    cases hfound : vars.lookup name with
    | none => exact ⟨name, by simpa [Store.call, Store.set, hfound] using h.symm⟩
    | some found => simp [Store.call, Store.set, hfound] at h
  | entries => cases h

/-- There is an answer to each call. -/
theorem Store.length_calls (s : Store) (calls : List StoreCall) :
    (s.calls calls).1.length = calls.length := by
  induction calls generalizing s with
  | nil => rfl
  | cons first rest ih => simp [Store.calls, ih]

/-- A call leaves a store in memory in memory. -/
theorem Store.call_memory (vars : List (String × Json × Bool)) (call : StoreCall) :
    ∃ vars', ((memory vars).call call).2 = .memory vars' := by
  cases call with
  | register name value writable =>
    simp only [Store.call, Store.register]
    split <;> exact ⟨_, rfl⟩
  | get name => exact ⟨vars, rfl⟩
  | set name value =>
    simp only [Store.call, Store.set]
    cases vars.lookup name <;> exact ⟨_, rfl⟩
  | entries => exact ⟨vars, rfl⟩

theorem Store.fault_of_memory_calls {vars : List (String × Json × Bool)} {calls : List StoreCall}
    {fault : Fault} (h : .error fault ∈ ((memory vars).calls calls).1) :
    ∃ name, fault = .unknownVariable name := by
  induction calls generalizing vars with
  | nil => cases h
  | cons first rest ih =>
    obtain ⟨vars', hvars'⟩ := Store.call_memory vars first
    simp only [Store.calls, hvars', List.mem_cons] at h
    obtain hfirst | hrest := h
    · exact Store.fault_of_memory hfirst.symm
    · exact ih hrest

/-- A call that fails leaves a store as it was. -/
theorem Store.call_of_fault {s : Store} {call : StoreCall} {fault : Fault}
    (h : (s.call call).1 = .error fault) : (s.call call).2 = s := by
  cases call with
  | register name value writable => cases h
  | get name => rfl
  | set name value =>
    simp only [Store.call] at h ⊢
    split
    · rename_i heq
      rw [heq] at h
      cases h
    · rfl
  | entries => rfl

/-! ## The open store of a bench -/

/-- The store is open on the bench. -/
def Bench.IsOpen (b : Bench) (s : Store) : Prop :=
  ∃ number, b.store = some number ∧ b.world.stores[number]? = some s

theorem World.callStore_eq {w : World} {number : Nat} {s : Store}
    (h : w.stores[number]? = some s) (call : StoreCall) :
    w.callStore number call = (s.call call).1.map fun answer =>
      (answer, { w with stores := w.stores.set number (s.call call).2 }) := by
  have hstore : w.store number = .ok s := by simp [World.store, h]
  have hsame : w.stores.set number s = w.stores := by
    obtain ⟨hlt, rfl⟩ := List.getElem?_eq_some_iff.mp h
    exact List.set_getElem_self hlt
  cases call with
  | register name value writable =>
    simp [callStore, World.register, hstore, Store.call, bind, Except.bind, pure, Except.pure,
      Except.map]
  | get name =>
    simp only [callStore, storeGet, hstore, Store.call, bind, Except.bind, hsame]
    cases s.get name <;> rfl
  | set name value =>
    simp only [callStore, storeSet, hstore, Store.call, bind, Except.bind]
    cases s.set name value <;> rfl
  | entries =>
    simp only [callStore, hstore, Store.call, bind, Except.bind, hsame]
    cases s.entries <;> rfl

namespace Bench.IsOpen

variable {b : Bench} {s : Store}

theorem call (h : b.IsOpen s) (call : StoreCall) :
    (b.call call).1 = (s.call call).1 ∧ (b.call call).2.IsOpen (s.call call).2 ∧
      (b.call call).2.file = b.file ∧ (b.call call).2.store = b.store := by
  obtain ⟨number, hnumber, hstore⟩ := h
  have hlt := (List.getElem?_eq_some_iff.mp hstore).1
  simp only [Bench.call, hnumber, World.callStore_eq hstore]
  cases hanswer : (s.call call).1 with
  | ok answer => exact ⟨rfl, ⟨number, rfl, List.getElem?_set_self hlt⟩, rfl, rfl⟩
  | error fault =>
    refine ⟨rfl, ⟨number, hnumber, ?_⟩, rfl, hnumber⟩
    rw [Store.call_of_fault hanswer]
    exact hstore

theorem calls (h : b.IsOpen s) (calls : List StoreCall) :
    (b.calls calls).1 = (s.calls calls).1 ∧ (b.calls calls).2.IsOpen (s.calls calls).2 ∧
      (b.calls calls).2.file = b.file ∧ (b.calls calls).2.store = b.store := by
  induction calls generalizing b s with
  | nil => exact ⟨rfl, h, rfl, rfl⟩
  | cons first rest ih =>
    obtain ⟨hanswer, hopen, hfile, hstore⟩ := h.call first
    obtain ⟨hanswers, hopen', hfile', hstore'⟩ := ih hopen
    exact ⟨by simp only [Bench.calls, Store.calls, hanswer, hanswers], hopen',
      hfile'.trans hfile, hstore'.trans hstore⟩

end Bench.IsOpen

/-! ## Opening and closing -/

/-- A database that this library opened before is opened again as it is. -/
theorem Database.checked_of_current {data : Database}
    (h : data.version = some (toString currentVersion)) : data.checked = .ok data := by
  have hread : version? (toString currentVersion) = some currentVersion := by decide
  simp only [checked, h, hread, if_true]

/-- A new database, as it is after it was opened. -/
def Database.fresh : Database :=
  { version := some (toString currentVersion) }

theorem World.updateDatabase_eq {w : World} {number : Nat} {data data' : Database}
    {f : Database → Except Fault Database} (hstore : w.stores[number]? = some (.database data))
    (hf : f data = .ok data') :
    w.updateDatabase number f =
      .ok { w with stores := w.stores.set number (.database data') } := by
  simp [updateDatabase, store, hstore, hf, bind, Except.bind, pure, Except.pure]

namespace Bench

theorem openStore_memory (b : Bench) :
    ∃ b', b.openStore .memory = (.ok (), b') ∧ b'.IsOpen (.memory []) := by
  refine ⟨_, rfl, b.world.stores.length, rfl, ?_⟩
  simp [closeStore]

/-- A database that is new is empty, and of the current version. -/
theorem openStore_new (b : Bench) {kind : StoreKind} (hkind : kind ≠ .memory)
    (hfile : b.file = none) :
    ∃ b', b.openStore kind = (.ok (), b') ∧
      b'.IsOpen (.database Database.fresh) ∧
      (kind = .file → b'.file = b'.store) := by
  have hadded : (b.world.stores ++ [Store.database {}])[b.world.stores.length]? =
      some (.database {}) := by simp
  have hopened : ({ b.world with stores := b.world.stores ++ [Store.database {}] } :
      World).updateDatabase b.world.stores.length Database.checked = .ok { b.world with
        stores := (b.world.stores ++ [Store.database {}]).set b.world.stores.length
          (.database .fresh) } :=
    World.updateDatabase_eq hadded rfl
  cases kind with
  | memory => exact absurd rfl hkind
  | transient =>
    have heq : b.openStore .transient = (.ok (), { b with
        world := { b.world with
          stores := (b.world.stores ++ [Store.database {}]).set b.world.stores.length
            (.database .fresh) }
        store := some b.world.stores.length }) := by
      simp only [openStore, closeStore, World.addStore, hopened]
      rfl
    exact ⟨_, heq, ⟨b.world.stores.length, rfl, by simp⟩, nofun⟩
  | file =>
    have heq : b.openStore .file = (.ok (), { b with
        world := { b.world with
          stores := (b.world.stores ++ [Store.database {}]).set b.world.stores.length
            (.database .fresh) }
        store := some b.world.stores.length
        file := some b.world.stores.length }) := by
      simp only [openStore, closeStore, World.addStore, hfile, hopened]
      rfl
    exact ⟨_, heq, ⟨b.world.stores.length, rfl, by simp⟩, fun _ => rfl⟩

/-- A file that was opened before is opened as it was. -/
theorem openStore_file {b : Bench} {number : Nat} {data : Database} (hfile : b.file = some number)
    (hstore : b.world.stores[number]? = some (.database data))
    (hversion : data.version = some (toString Database.currentVersion)) :
    ∃ b', b.openStore .file = (.ok (), b') ∧ b'.IsOpen (.database data) ∧ b'.file = b'.store := by
  have hopened := World.updateDatabase_eq hstore (Database.checked_of_current hversion)
  have hlt := (List.getElem?_eq_some_iff.mp hstore).1
  have heq : b.openStore .file = (.ok (), { b with
      world := { b.world with stores := b.world.stores.set number (.database data) }
      store := some number
      file := some number }) := by
    simp only [openStore, closeStore, hfile, hopened]
    rfl
  exact ⟨_, heq, ⟨number, rfl, List.getElem?_set_self hlt⟩, rfl⟩

/-- A single session on an open store gives the answers of the store. -/
theorem sessions_singleton {b b' : Bench} {kind : StoreKind} {s : Store}
    (hopened : b.openStore kind = (.ok (), b')) (hopen : b'.IsOpen s) (calls : List StoreCall) :
    b.sessions kind [calls] = .ok (s.calls calls).1 := by
  simp only [sessions, hopened, (hopen.calls calls).1]
  simp [bind, Except.bind, pure, Except.pure]

/-- The file holds the texts of the variables, and can be opened. -/
def Files (b : Bench) (vars : List (String × Json × Bool)) : Prop :=
  ∃ number data, b.file = some number ∧ b.world.stores[number]? = some (.database data) ∧
    data.version = some (toString Database.currentVersion) ∧ data.Writes vars

/-- A session on a file that was opened: the file then holds the variables that calls on a store in
memory leave, and its answers are followed by those of later sessions. -/
theorem sessions_cons {b b' : Bench} {data : Database} {vars : List (String × Json × Bool)}
    (hopened : b.openStore .file = (.ok (), b')) (hopen : b'.IsOpen (.database data))
    (hfile : b'.file = b'.store) (hversion : data.version = some (toString Database.currentVersion))
    (hwrites : data.Writes vars) {calls : List StoreCall} (hexact : ∀ c ∈ calls, c.isExact) :
    ∃ (answers : List (Except Fault StoreAnswer)) (vars' : List (String × Json × Bool))
      (b'' : Bench), (Store.memory vars).calls calls = (answers, .memory vars') ∧
      b''.Files vars' ∧
      ∀ rest, b.sessions .file (calls :: rest) = (b''.sessions .file rest).map (answers ++ ·) := by
  obtain ⟨answers, vars', data', hmemory, hdatabase, hwrites', hversion'⟩ := hwrites.calls hexact
  obtain ⟨hanswers, ⟨number, hnumber, hstore⟩, hkept, hsame⟩ := hopen.calls calls
  rw [hdatabase] at hanswers hstore
  refine ⟨answers, vars', (b'.calls calls).2.closeStore, hmemory, ?_, ?_⟩
  · refine ⟨number, data', ?_, hstore, hversion'.trans hversion, hwrites'⟩
    rw [← hnumber, hsame, ← hfile]
    exact hkept
  · intro rest
    simp only [sessions, hopened, hanswers]
    cases (b'.calls calls).2.closeStore.sessions .file rest <;> rfl

/-- The answers of a file do not tell how often it is closed and opened again: they are those of
a store in memory. -/
theorem Files.sessions {b : Bench} {vars : List (String × Json × Bool)} (h : b.Files vars)
    {sessions : List (List StoreCall)} (hexact : ∀ c ∈ sessions.flatten, c.isExact) :
    b.sessions .file sessions = .ok ((Store.memory vars).calls sessions.flatten).1 := by
  induction sessions generalizing b vars with
  | nil => rfl
  | cons calls rest ih =>
    obtain ⟨number, data, hfile, hstore, hversion, hwrites⟩ := h
    obtain ⟨b', hopened, hopen, hfile'⟩ := openStore_file hfile hstore hversion
    obtain ⟨answers, vars', b'', hmemory, hfiles, hsessions⟩ := sessions_cons hopened hopen hfile'
      hversion hwrites fun c (hc : c ∈ calls) => hexact c (by simp [hc])
    have hrest := ih hfiles fun c hc => hexact c (by
      rw [List.flatten_cons]
      exact List.mem_append_right _ hc)
    rw [hsessions, hrest, List.flatten_cons, Store.calls_append, hmemory]
    rfl

end Bench

/-- Whatever is registered, read, written and listed one after the other, as long as the values are
exact: a store in memory and a database that begin empty give the same answers. So does a database
in a file that is closed and opened again any number of times between the calls. The only fault
that an answer can be is that there is no variable of a name. -/
theorem both_kinds_of_stores_answer_alike (b : Bench) (hfile : b.file = none)
    (sessions : List (List StoreCall)) (hexact : ∀ call ∈ sessions.flatten, call.isExact) :
    ∃ answers, b.sessions .memory [sessions.flatten] = .ok answers ∧
      b.sessions .transient [sessions.flatten] = .ok answers ∧
      b.sessions .file sessions = .ok answers ∧
      answers.length = sessions.flatten.length ∧
      ∀ fault, .error fault ∈ answers → ∃ name, fault = .unknownVariable name := by
  have hempty : Database.fresh.Writes [] := ⟨rfl, by simp⟩
  obtain ⟨answers, vars, data, hmemory, hdatabase, -⟩ := hempty.calls hexact
  have hanswers : ((Store.memory []).calls sessions.flatten).1 = answers := by rw [hmemory]
  obtain ⟨m, hm, hmopen⟩ := b.openStore_memory
  obtain ⟨t, ht, htopen, -⟩ := b.openStore_new (show StoreKind.transient ≠ .memory from nofun) hfile
  refine ⟨answers, ?_, ?_, ?_, ?_, ?_⟩
  · rw [Bench.sessions_singleton hm hmopen, hmemory]
  · rw [Bench.sessions_singleton ht htopen, hdatabase]
  · cases sessions with
    | nil =>
      obtain ⟨rfl, -⟩ := Prod.mk.inj hmemory
      rfl
    | cons calls rest =>
      obtain ⟨b', hopened, hopen, hsame⟩ :=
        b.openStore_new (show StoreKind.file ≠ .memory from nofun) hfile
      obtain ⟨first, vars', b'', hfirst, hfiles, hsessions⟩ := Bench.sessions_cons hopened hopen
        (hsame rfl) rfl hempty fun c (hc : c ∈ calls) => hexact c (by simp [hc])
      have hrest := hfiles.sessions fun c hc => hexact c (by
        rw [List.flatten_cons]
        exact List.mem_append_right _ hc)
      rw [List.flatten_cons, Store.calls_append, hfirst] at hmemory
      obtain ⟨rfl, -⟩ := Prod.mk.inj hmemory
      rw [hsessions, hrest]
      rfl
  · rw [← hanswers, Store.length_calls]
  · intro fault hfault
    rw [← hanswers] at hfault
    exact Store.fault_of_memory_calls hfault

/-- A load is registered, written and read, and a variable of no such name is not found, with the
file closed and opened again in between. -/
theorem a_load_is_answered_alike_in_memory_and_in_a_file :
    let sessions : List (List StoreCall) :=
      [[.register "cpu.load" (.ofInt 1) true, .set "cpu.load" (.arr [.null, .bool true])],
        [.get "cpu.load", .get "disk", .entries]]
    ∃ answers, ({} : Bench).sessions .memory [sessions.flatten] = .ok answers ∧
      ({} : Bench).sessions .file sessions = .ok answers ∧ answers.length = 5 := by
  obtain ⟨answers, hmemory, -, hfile, hlength, -⟩ := both_kinds_of_stores_answer_alike {} rfl
    [[.register "cpu.load" (.ofInt 1) true, .set "cpu.load" (.arr [.null, .bool true])],
      [.get "cpu.load", .get "disk", .entries]] (by decide)
  exact ⟨answers, hmemory, hfile, hlength⟩

end Watchtower.Live
