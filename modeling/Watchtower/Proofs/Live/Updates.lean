-- No update is lost in a race. Whatever the order of their steps, each write that comes back has
-- told its own change once, and the changes can be put into the order of the steps in the store,
-- where each goes on from the one before. A write fails only where the store cannot be read.
import Watchtower.Proofs.Live.Race

namespace Watchtower.Live

namespace Race

variable {c : Connection} {name : String} {channel : Nat} {s : Store} {flag : Bool} {r : Race}

/-! ## Writes that fail -/

/-- The values are those that the writers came with, and what is read in the store, or failed to be
read, is the first value or one of theirs. -/
structure IsFounded (c : Connection) (name : String) (s : Store) (values : List Json)
    (r : Race) : Prop where
  store : ∃ s' kept flag, r.world.stores[c.store]? = some s' ∧ s'.keeps = s.keeps ∧
    s'.kept? name = some (kept, flag) ∧ kept.read ∈ s.get name :: values.map s.readBack
  given : r.writes.map (·.value) = values
  faults : ∀ write ∈ r.writes, ∀ fault, write.phase = .failed fault →
    .error fault ∈ s.get name :: values.map s.readBack

theorem isFounded_start {w : World} {kept : Store.Kept} (hstore : w.stores[c.store]? = some s)
    (hkept : s.kept? name = some (kept, flag)) (values : List Json) :
    IsFounded c name s values (start w values) := by
  refine ⟨⟨s, kept, flag, hstore, rfl, hkept, ?_⟩, ?_, ?_⟩
  · rw [Store.get_of_kept hkept]
    exact List.mem_cons_self
  · unfold start
    rw [List.map_map]
    exact List.map_id values
  · intro write hwrite fault hfault
    obtain ⟨value, -, rfl⟩ := List.mem_map.mp hwrite
    cases hfault

/-- A write that goes on to another phase keeps its value. -/
theorem values_set {values : List Json} (h : r.writes.map (·.value) = values) {i : Nat}
    {value : Json} {old : Phase} (hi : r.writes[i]? = some ⟨value, old⟩) (new : Phase) :
    (r.writes.set i ⟨value, new⟩).map (·.value) = values := by
  have hsame : (r.writes.set i ⟨value, new⟩).filterMap (some ∘ Write.value) =
      r.writes.filterMap (some ∘ Write.value) := filterMap_set_of_eq hi rfl
  rw [List.filterMap_eq_map] at hsame
  exact hsame.trans h

/-- A write that goes on without a fault leaves the faults of the others. -/
theorem faults_set {outcomes : List (Except Fault Json)} {i : Nat} {write : Write}
    (h : ∀ write ∈ r.writes, ∀ fault, write.phase = .failed fault → .error fault ∈ outcomes)
    (hwrite : ∀ fault, write.phase = .failed fault → .error fault ∈ outcomes) :
    ∀ other ∈ r.writes.set i write, ∀ fault, other.phase = .failed fault →
      .error fault ∈ outcomes := by
  intro other hother
  rcases List.mem_or_eq_of_mem_set hother with hold | rfl
  · exact h other hold
  · exact hwrite

theorem IsFounded.step {values : List Json} (h : IsFounded c name s values r) (move : Move) :
    IsFounded c name s values (step c name channel r move) := by
  obtain ⟨s', kept, flag, hs', hkeeps, hkept, hread⟩ := h.store
  cases move with
  | store i =>
    unfold Race.step
    simp only
    split
    · rename_i value hi
      rw [World.storeSet_of_kept hs' hkept]
      cases hkeptRead : kept.read with
      | error fault =>
        rw [hkeptRead] at hread
        refine ⟨h.store, values_set h.given hi _, faults_set h.faults ?_⟩
        intro fault' hfault
        cases hfault
        exact hread
      | ok previous =>
        have hlt : c.store < r.world.stores.length := (List.getElem?_eq_some_iff.mp hs').1
        have hvalue : value ∈ values := by
          rw [← h.given]
          exact List.mem_map.mpr ⟨_, List.mem_of_getElem? hi, rfl⟩
        refine ⟨⟨s'.put name value flag, s.keeps value, flag, List.getElem?_set_self hlt, ?_, ?_, ?_⟩,
          values_set h.given hi _, faults_set h.faults (by intro fault hfault; cases hfault)⟩
        · rw [Store.keeps_put, hkeeps]
        · rw [Store.kept_put, if_pos rfl, hkeeps]
        · rw [Store.read_keeps]
          exact List.mem_cons_of_mem _ (List.mem_map.mpr ⟨value, hvalue, rfl⟩)
    · exact h
  | publish i =>
    unfold Race.step
    simp only
    split
    · rename_i value previous hi
      exact ⟨h.store, values_set h.given hi _,
        faults_set h.faults (by intro fault hfault; cases hfault)⟩
    · exact h
  | deliver =>
    unfold Race.step
    simp only
    split
    · exact ⟨h.store, h.given, h.faults⟩
    · exact ⟨h.store, h.given, h.faults⟩
    · exact h

theorem IsFounded.run {values : List Json} (h : IsFounded c name s values r) (moves : List Move) :
    IsFounded c name s values (run c name channel r moves) := by
  induction moves generalizing r with
  | nil => exact h
  | cons move rest ih => exact ih (h.step move)

/-! ## What is still to arrive -/

/-- The race when the consumer was given all that waits for it. -/
def settled (c : Connection) (name : String) (channel : Nat) (r : Race) : Race :=
  run c name channel r (List.replicate (r.world.bus.waitingIn channel) .deliver)

theorem waitingIn_of_awaits {b : Bus} {payloads : List Payload} (h : b.Awaits channel payloads) :
    b.waitingIn channel = payloads.length := by
  unfold Bus.Awaits at h
  unfold Bus.waitingIn
  obtain ⟨ch, hch, hwaiting⟩ := Option.map_eq_some_iff.mp h
  rw [hch]
  simp [hwaiting]

/-- As many deliveries as envelopes wait leave nothing behind. -/
theorem run_deliveries {payloads : List Payload} (htaps : r.world.bus.Taps c.exchange c.space channel)
    (hwaiting : r.world.bus.Awaits channel payloads) :
    (run c name channel r (List.replicate payloads.length .deliver)).delivered =
      r.delivered ++ payloads := by
  induction payloads generalizing r with
  | nil => exact (List.append_nil _).symm
  | cons payload rest ih =>
    rcases htaps.take hwaiting with ⟨hnone, -⟩ | ⟨first, others, b, heq, htake, hafter, hothers⟩
    · cases hnone
    · cases heq
      have hstep : step c name channel r .deliver = { r with
          world := { r.world with bus := b }
          delivered := r.delivered ++ [payload] } := by
        simp only [step, htake]
      have hrest := ih (r := step c name channel r .deliver) (by rw [hstep]; exact hafter)
        (by rw [hstep]; exact hothers)
      unfold run at hrest ⊢
      rw [List.length_cons, List.replicate_succ, List.foldl_cons, hrest, hstep]
      simp

/-- What was delivered and what waits is what was published. -/
theorem IsFair.delivered_settled (h : IsFair c name channel s flag r) :
    (settled c name channel r).delivered =
      r.published.map fun change => c.change name change.1 change.2 := by
  obtain ⟨waiting, hwaiting, harrives⟩ := h.arrives
  unfold settled
  rw [waitingIn_of_awaits hwaiting, run_deliveries h.taps hwaiting, harrives]

/-- A write that is over has told its change, or failed. -/
theorem returned_or_failed {write : Write} (h : write.isOver = true) :
    (∃ previous, write.phase = .returned previous) ∨ ∃ fault, write.phase = .failed fault := by
  obtain ⟨value, phase⟩ := write
  cases phase with
  | ready => cases h
  | stored previous => cases h
  | returned previous => exact .inl ⟨previous, rfl⟩
  | failed fault => exact .inr ⟨fault, rfl⟩

/-- In memory all can be read. -/
theorem error_notMem_memory {vars : List (String × Json × Bool)} {kept : Store.Kept}
    (hkept : (Store.memory vars).kept? name = some (kept, flag)) (values : List Json)
    (fault : Fault) :
    .error fault ∉ (Store.memory vars).get name :: values.map (Store.memory vars).readBack := by
  obtain ⟨found, -, heq⟩ := Option.map_eq_some_iff.mp hkept
  cases heq
  rw [Store.get_of_kept hkept]
  intro hmem
  rcases List.mem_cons.mp hmem with hfirst | hrest
  · cases hfirst
  · obtain ⟨value, -, hvalue⟩ := List.mem_map.mp hrest
    cases hvalue

end Race

/-- Clients write a variable through a connection, each in two steps and in any order, and a
consumer is bound for its changes before the first. When all writes are over, each has told its own
change once, with the value that its step in the store replaced, or it failed since what it would
replace could not be read. What the consumer is given can be put into the order of the steps in the
store, and so leads from the first value to the one in the store, each change going on from what is
read of the one before. In memory no write fails, and each change goes on from the value before. -/
theorem each_update_is_told_once {c : Connection} {name queue : String} {channel : Nat} {w : World}
    {b : Bus} {s : Store} {kept : Store.Kept} {flag : Bool}
    (hstore : w.stores[c.store]? = some s) (hkept : s.kept? name = some (kept, flag))
    (hrange : ∀ binding ∈ b.bindings, binding.channel < b.channels.length)
    (hbind : b.bind c.exchange c.space queue = .ok (channel, w.bus))
    (values : List Json) (moves : List Move) {r : Race}
    (hrun : Race.run c name channel (Race.start w values) moves = r)
    (hover : ∀ write ∈ r.writes, write.isOver = true) :
    ∃ s', r.world.stores[c.store]? = some s' ∧
      r.writes.map (·.value) = values ∧
      (∀ write ∈ r.writes, (∃ previous, write.phase = .returned previous) ∨
        ∃ fault, write.phase = .failed fault ∧
          .error fault ∈ s.get name :: values.map s.readBack) ∧
      (r.settled c name channel).delivered.Perm
        ((r.writes.filterMap Write.told?).map fun change => c.change name change.1 change.2) ∧
      (r.settled c name channel).delivered.Perm
        (r.stored.map fun change => c.change name change.1 change.2) ∧
      Successive s.readBack (s.get name) r.stored (s'.get name) ∧
      ∀ vars, s = .memory vars →
        (∀ write ∈ r.writes, ∃ previous, write.phase = .returned previous) ∧
        Successive .ok (s.get name) r.stored (s'.get name) := by
  have hfair : Race.IsFair c name channel s flag r := by
    rw [← hrun]
    exact (Race.isFair_start hstore hkept hrange hbind values).run moves
  have hfounded : Race.IsFounded c name s values r := by
    rw [← hrun]
    exact (Race.isFounded_start hstore hkept values).run moves
  obtain ⟨s', last, hs', -, hlast, hchain⟩ := hfair.store
  rw [← Store.get_of_kept hlast] at hchain
  have hended : ∀ write ∈ r.writes, (∃ previous, write.phase = .returned previous) ∨
      ∃ fault, write.phase = .failed fault ∧
        .error fault ∈ s.get name :: values.map s.readBack := by
    intro write hwrite
    rcases Race.returned_or_failed (hover write hwrite) with hreturned | ⟨fault, hfault⟩
    · exact .inl hreturned
    · exact .inr ⟨fault, hfault, hfounded.faults write hwrite fault hfault⟩
  refine ⟨s', hs', hfounded.given, hended, ?_, ?_, hchain, ?_⟩
  · rw [hfair.delivered_settled]
    exact hfair.told.map _
  · rw [hfair.delivered_settled]
    exact (hfair.published_perm hover).map _
  · rintro vars rfl
    refine ⟨?_, hchain⟩
    intro write hwrite
    rcases hended write hwrite with hreturned | ⟨fault, -, hmem⟩
    · exact hreturned
    · exact absurd hmem (Race.error_notMem_memory hkept values fault)

/-- Two writers overtake each other between their steps, and nothing is lost. -/
theorem updates_told_out_of_turn_are_told_once :
    ∃ r, Race.run loadConnection "cpu.load" 0 (Race.start loadWorld [.bool false, .bool true])
        [.store 0, .store 1, .publish 1, .publish 0, .deliver] = r ∧
      (r.settled loadConnection "cpu.load" 0).delivered =
        [.change "load" (.bool false) (.bool true), .change "load" .null (.bool false)] ∧
      (r.settled loadConnection "cpu.load" 0).delivered.Perm (r.stored.map fun change =>
        loadConnection.change "cpu.load" change.1 change.2) ∧
      Successive .ok (.ok .null) r.stored (.ok (.bool true)) := by
  refine ⟨_, rfl, rfl, ?_⟩
  have hstore : loadWorld.stores[loadConnection.store]? =
      some (.memory [("cpu.load", .null, false)]) := rfl
  have hkept : (Store.memory [("cpu.load", .null, false)]).kept? "cpu.load" =
      some (.value .null, false) := rfl
  have hrange : ∀ binding ∈ ({} : Bus).bindings, binding.channel < ({} : Bus).channels.length := by
    simp
  have hbind : ({} : Bus).bind loadConnection.exchange loadConnection.space "watch" =
      .ok (0, loadWorld.bus) := rfl
  obtain ⟨s', hs', -, -, -, hperm, -, hmemory⟩ := each_update_is_told_once hstore hkept hrange hbind
    [.bool false, .bool true] [.store 0, .store 1, .publish 1, .publish 0, .deliver] rfl (by decide)
  cases hs'
  exact ⟨hperm, (hmemory _ rfl).2⟩

/-! ## Two writes in a database -/

/-- A database that keeps a text of the load. -/
def loadTable (text : String) : Store := .database { rows := [("cpu.load", text, false)] }

/-- In a database, a writer writes the load and comes back, and after it another one. -/
def writeInTurn (value next : Json) : Race :=
  Race.run loadConnection "cpu.load" 0
    (Race.start { loadWorld with stores := [loadTable "null"] } [value, next])
    [.store 0, .publish 0, .store 1, .publish 1, .deliver, .deliver]

theorem step_store_loadTable {r : Race} {text : String} {i : Nat} {value : Json}
    (hstores : r.world.stores = [loadTable text]) (hi : r.writes[i]? = some ⟨value, .ready⟩) :
    Race.step loadConnection "cpu.load" 0 r (.store i) =
      match Store.readText text with
      | .ok previous => { r with
          world := { r.world with stores := [loadTable value.compact] }
          writes := r.writes.set i ⟨value, .stored previous⟩
          stored := r.stored ++ [(previous, value)] }
      | .error fault => { r with writes := r.writes.set i ⟨value, .failed fault⟩ } := by
  have hstore : r.world.stores[loadConnection.store]? = some (loadTable text) := by
    rw [hstores]
    rfl
  have hkept : (loadTable text).kept? "cpu.load" = some (.text text, false) := rfl
  unfold Race.step
  simp only [hi]
  rw [World.storeSet_of_kept hstore hkept, hstores]
  simp only [Store.Kept.read]
  cases Store.readText text <;> rfl

/-- The text of a value is read from its characters. -/
theorem readText_compact (value : Json) :
    Store.readText value.compact =
      match ((Json.tokens? value.compactList).bind Json.Doc.ofTokens?).bind
        (Json.Doc.value? Json.maxDepth) with
      | some value => .ok value
      | none => .error .encoding := by
  have htext : value.compact.toList = value.compactList := String.toList_ofList
  show (match ((Json.tokens? value.compact.toList).bind Json.Doc.ofTokens?).bind
      (Json.Doc.value? Json.maxDepth) with
    | some value => .ok value
    | none => .error .encoding : Except Fault Json) = _
  rw [htext]

/-- What the second writer replaces is what is read of the text of the first value. -/
theorem writeInTurn_eq (value next : Json) :
    writeInTurn value next =
      match Store.readText value.compact with
      | .ok previous => {
          world := { loadWorld with stores := [loadTable next.compact] }
          writes := [⟨value, .returned .null⟩, ⟨next, .returned previous⟩]
          stored := [(.null, value), (previous, next)]
          published := [(.null, value), (previous, next)]
          delivered := [.change "load" .null value, .change "load" previous next] }
      | .error fault => {
          world := { loadWorld with stores := [loadTable value.compact] }
          writes := [⟨value, .returned .null⟩, ⟨next, .failed fault⟩]
          stored := [(.null, value)]
          published := [(.null, value)]
          delivered := [.change "load" .null value] } := by
  have hnull : Store.readText "null" = .ok .null := readText_compact .null
  let r₀ := Race.start { loadWorld with stores := [loadTable "null"] } [value, next]
  have hstores₀ : r₀.world.stores = [loadTable "null"] := rfl
  have hready₀ : r₀.writes[0]? = some ⟨value, .ready⟩ := rfl
  have hfirst := step_store_loadTable hstores₀ hready₀
  rw [hnull] at hfirst
  unfold writeInTurn Race.run
  rw [List.foldl_cons, hfirst, List.foldl_cons, List.foldl_cons]
  generalize hr : Race.step loadConnection "cpu.load" 0 _ (.publish 0) = r
  have hstores : r.world.stores = [loadTable value.compact] := by
    rw [← hr]
    rfl
  have hready : r.writes[1]? = some ⟨next, .ready⟩ := by
    rw [← hr]
    rfl
  rw [step_store_loadTable hstores hready, ← hr]
  cases Store.readText value.compact <;> rfl

/-- A number whose text is read as its neighbour. -/
def wideNumber : Json := .num (.float 5071878651310008752)

theorem wideNumber_is_read_as_another :
    ∃ other, Store.readText wideNumber.compact = .ok other ∧ other ≠ wideNumber ∧ other ≠ .null := by
  have hread : (Store.readText wideNumber.compact).toOption.map Json.compact = some "1.2e+31" := by
    rw [readText_compact]
    decide +kernel
  obtain ⟨other, hother, htext⟩ := Option.map_eq_some_iff.mp hread
  -- The three values have texts of their own.
  refine ⟨other, toOption_eq_some_iff.mp hother, ?_, ?_⟩
  · rintro rfl
    have hwide : wideNumber.compact ≠ "1.2e+31" := by decide +kernel
    exact hwide htext
  · rintro rfl
    have hnull : Json.null.compact ≠ "1.2e+31" := by decide +kernel
    exact hnull htext

/-- Arrays in arrays. -/
def nested : Nat → Json
  | 0 => .null
  | depth + 1 => .arr [nested depth]

/-- Arrays nested deeper than a text may be cannot be read again. -/
theorem nested_is_not_read : Store.readText (nested 128).compact = .error .encoding := by
  have hnone : (((Json.tokens? (nested 128).compactList).bind Json.Doc.ofTokens?).bind
      (Json.Doc.value? Json.maxDepth)).isNone = true := by
    decide +kernel
  rw [readText_compact, Option.isNone_iff_eq_none.mp hnone]

/-- In a database the changes of two writes cannot always be put into an order in which each goes on
from the value before, and a write after one of too deep a value fails and tells nothing. -/
theorem updates_of_a_database_need_not_be_linked :
    (∃ r, writeInTurn wideNumber .null = r ∧
      (∀ write ∈ r.writes, write.isOver = true) ∧ r.world.bus.waitingIn 0 = 0 ∧
      ∀ changes, r.delivered.Perm (changes.map fun change =>
          loadConnection.change "cpu.load" change.1 change.2) →
        ¬ Successive .ok (.ok .null) changes (r.world.storeGet 0 "cpu.load")) ∧
    ∃ r, writeInTurn (nested 128) .null = r ∧
      (∀ write ∈ r.writes, write.isOver = true) ∧ r.world.bus.waitingIn 0 = 0 ∧
      r.writes.length = 2 ∧ r.delivered.length = 1 := by
  constructor
  · obtain ⟨other, hread, hother, hnull⟩ := wideNumber_is_read_as_another
    refine ⟨_, rfl, ?_⟩
    rw [writeInTurn_eq, hread]
    refine ⟨by simp [Write.isOver], rfl, ?_⟩
    intro changes hperm hsuccessive
    have hmem : ∀ change ∈ changes,
        change = (Json.null, wideNumber) ∨ change = (other, Json.null) := by
      rintro ⟨previous, value⟩ hchange
      have htold := hperm.symm.subset (List.mem_map.mpr ⟨_, hchange, rfl⟩)
      rcases List.mem_pair.mp htold with heq | heq
      · cases heq
        exact .inl rfl
      · cases heq
        exact .inr rfl
    have hlength : changes.length = 2 := by
      simpa using hperm.length_eq.symm
    match changes, hlength with
    | [first, second], _ =>
      obtain ⟨hfirst, hsecond, -⟩ := hsuccessive
      rcases hmem first (by simp) with rfl | rfl
      · rcases hmem second (by simp) with rfl | rfl
        · cases hsecond
        · exact hother (Except.ok.inj hsecond).symm
      · exact hnull (Except.ok.inj hfirst).symm
  · refine ⟨_, rfl, ?_⟩
    rw [writeInTurn_eq, nested_is_not_read]
    exact ⟨by simp [Write.isOver], rfl, rfl, rfl⟩

end Watchtower.Live
