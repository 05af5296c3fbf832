-- The traffic of a bus, over whatever steps it takes. Each thread is given what was published for
-- it, in this order; a flush that ends has found it all handled; and a thread that ends leaves
-- nothing out.
import Watchtower.Proofs.Live.History

namespace Watchtower.Live

open Happening

/-! ## What all traffic keeps -/

/-- It happened after the earlier history. -/
def Happening.StandsIn (what : Happening) (history before : List Happening) : Prop :=
  ∃ later, history = later ++ what :: before

/-- Each flush that has ended found handled what was published before it began. -/
def Happening.Settles (history : List Happening) : Prop :=
  ∀ flush later between before,
    history = later ++ .flushEnded flush :: (between ++ .flushBegan flush :: before) →
    ∀ i, (pairOf? i before).isSome = true →
      addressed i before <+: handledBy i (between ++ .flushBegan flush :: before)

theorem Happening.StandsIn.of_cons {what new : Happening} {past before : List Happening}
    (h : what.StandsIn (new :: past) before) :
    (new = what ∧ past = before) ∨ what.StandsIn past before := by
  obtain ⟨later, heq⟩ := h
  rcases List.cons_eq_append_iff.mp heq with ⟨-, hfirst⟩ | ⟨rest, -, hrest⟩
  · cases hfirst
    exact .inl ⟨rfl, rfl⟩
  · exact .inr ⟨rest, hrest⟩

theorem Happening.Settles.cons {new : Happening} {past : List Happening} (h : Settles past)
    (hnew : ∀ flush between before, new = .flushEnded flush →
      past = between ++ .flushBegan flush :: before →
      ∀ i, (pairOf? i before).isSome = true → addressed i before <+: handledBy i past) :
    Settles (new :: past) := by
  intro flush later between before heq i hbound
  rcases List.cons_eq_append_iff.mp heq with ⟨-, hfirst⟩ | ⟨rest, -, hrest⟩
  · cases hfirst
    exact hnew flush between before rfl rfl i hbound
  · exact h flush rest between before hrest i hbound

namespace Traffic

/-- What holds at every point of the traffic. -/
structure IsSound (t : Traffic) : Prop where
  ordered : t.bus.IsOrdered
  pairs : ∀ i, pairOf? i t.history = t.bus.pairAt? i
  calls : ∀ i, calledWith i t.history = handledBy i t.history ++ (t.busy i).toList
  /-- What was published for a channel was given to its callback, or waits. -/
  line : ∀ i, addressed i t.history = calledWith i t.history ++ toDeliver (t.bus.waitingAt i)
  leaving : ∀ i, .shutdown ∈ t.bus.waitingAt i → .unbound i ∈ t.history
  gone : ∀ i, .ended i ∈ t.history → .unbound i ∈ t.history ∧ i < t.bus.channels.length ∧
    t.bus.isOpen i = false ∧ t.bus.waitingAt i = [] ∧ t.busy i = none
  /-- A flush waits for at least as many answers as have come and will come. -/
  balance : ∀ flush, t.answers flush + t.bus.barriers flush ≤ t.awaited flush
  unbegun : ∀ flush, t.bus.flushes ≤ flush → t.awaited flush = 0
  covered : ∀ flush before, (flushBegan flush).StandsIn t.history before → flush < t.bus.flushes ∧
    ∀ i, (pairOf? i before).isSome = true →
      Covers flush (addressed i before) (handledBy i t.history) (t.busy i) (t.bus.waitingAt i)
  settles : Settles t.history

/-- What a publish has still to do is to send to queues of its pair. -/
structure IsRouted (t : Traffic) : Prop where
  fresh : ∀ publish, t.publishes ≤ publish → t.sending publish = none
  routed : ∀ publish p, t.sending publish = some p →
    ∀ i ∈ p.remaining, t.bus.pairAt? i = some (p.exchange, p.routingKey)

theorem isSound_empty : IsSound {} where
  ordered := ⟨List.nodup_nil, List.nodup_nil, by simp⟩
  pairs _ := rfl
  calls _ := rfl
  line _ := rfl
  leaving i h := by simp [Bus.waitingAt] at h
  gone i h := by cases h
  balance _ := Nat.le_refl _
  unbegun _ _ := rfl
  covered flush before h := by
    obtain ⟨later, heq⟩ := h
    simp at heq
  settles flush later between before heq := by simp at heq

variable {t : Traffic}

/-- Barriers are those of flushes that began. -/
theorem IsSound.barrier_notMem (h : t.IsSound) (i : Nat) :
    .barrier t.bus.flushes ∉ t.bus.waitingAt i := by
  intro hmem
  have hpos := Bus.barriers_pos hmem
  have hbalance := h.balance t.bus.flushes
  rw [h.unbegun _ (Nat.le_refl _)] at hbalance
  omega

theorem IsSound.covered_cons (h : t.IsSound) {new : Happening}
    (hnew : ∀ flush, new ≠ .flushBegan flush) {flush : Nat} {before : List Happening}
    (hbegan : (flushBegan flush).StandsIn (new :: t.history) before) : flush < t.bus.flushes ∧
      ∀ i, (pairOf? i before).isSome = true →
        Covers flush (addressed i before) (handledBy i t.history) (t.busy i)
          (t.bus.waitingAt i) := by
  rcases hbegan.of_cons with ⟨heq, -⟩ | hold
  · exact absurd heq (hnew flush)
  · exact h.covered flush before hold

/-- A happening that is not the end of a flush leaves the flushes that have ended. -/
theorem IsSound.settles_cons (h : t.IsSound) {new : Happening}
    (hnew : ∀ flush, new ≠ .flushEnded flush) : Settles (new :: t.history) :=
  h.settles.cons fun flush _ _ heq => absurd heq (hnew flush)

theorem IsSound.bind (h : t.IsSound) (exchange routingKey queue : String) :
    (t.step (.bind exchange routingKey queue)).IsSound := by
  unfold step
  simp only
  split
  · exact h
  split
  · rename_i channel bus hbind
    have hwaiting := Bus.waitingAt_bind hbind
    have hflushes : bus.flushes = t.bus.flushes := by
      obtain ⟨-, -, rfl⟩ := Bus.bind_eq_ok hbind
      rfl
    refine ⟨h.ordered.bind hbind, ?pairs, h.calls, ?line, ?leaving, ?gone, ?balance, ?unbegun,
      ?covered, ?settles⟩
    case pairs =>
      intro i
      rw [h.ordered.pairAt_bind hbind, pairOf?, h.pairs]
    case line =>
      intro i
      simp only [addressed, calledWith, hwaiting]
      exact h.line i
    case leaving =>
      intro i hmem
      simp only [hwaiting] at hmem
      exact List.mem_cons_of_mem _ (h.leaving i hmem)
    case gone =>
      intro i hended
      obtain ⟨hunbound, hlt, hclosed, hempty, hidle⟩ := h.gone i (by simpa using hended)
      refine ⟨List.mem_cons_of_mem _ hunbound, ?_, (Bus.isOpen_bind hbind hlt).trans hclosed,
        (hwaiting i).trans hempty, hidle⟩
      obtain ⟨-, -, rfl⟩ := Bus.bind_eq_ok hbind
      simp only [List.length_append]
      omega
    case balance =>
      intro flush
      rw [Bus.barriers_bind hbind]
      exact h.balance flush
    case unbegun =>
      intro flush hle
      rw [hflushes] at hle
      exact h.unbegun flush hle
    case covered =>
      intro flush before hbegan
      obtain ⟨hlt, hcovers⟩ := h.covered_cons (by simp) hbegan
      refine ⟨hflushes ▸ hlt, ?_⟩
      intro i hbound
      simp only [hwaiting, handledBy]
      exact hcovers i hbound
    case settles => exact h.settles_cons (by simp)
  · exact h

section Sent

variable {bindings : List Binding} {b : Bus} {channels : List Nat} {e : Envelope}

/-- Only who loses its binding is told to end. -/
theorem IsSound.leaving_sent (h : t.IsSound) (hsent : Bus.Sent { t.bus with bindings } b channels e)
    (he : e ≠ .shutdown) (new : Happening) {i : Nat} (hmem : .shutdown ∈ b.waitingAt i) :
    .unbound i ∈ new :: t.history := by
  rcases hsent.mem_waiting hmem with hold | ⟨hnew, -⟩
  · exact List.mem_cons_of_mem _ (h.leaving i hold)
  · exact absurd hnew.symm he

/-- A thread that has ended is sent nothing any more. -/
theorem IsSound.gone_sent (h : t.IsSound) (hsent : Bus.Sent { t.bus with bindings } b channels e)
    (new : Happening) {i : Nat} (hended : .ended i ∈ t.history) :
    .unbound i ∈ new :: t.history ∧ i < b.channels.length ∧ b.isOpen i = false ∧
      b.waitingAt i = [] ∧ t.busy i = none := by
  obtain ⟨hunbound, hlt, hclosed, hempty, hidle⟩ := h.gone i hended
  exact ⟨List.mem_cons_of_mem _ hunbound, hsent.length.symm ▸ hlt, (hsent.isOpen i).trans hclosed,
    (hsent.waiting_of_closed hclosed).trans hempty, hidle⟩

/-- What is no barrier asks for no answer. -/
theorem IsSound.balance_sent (h : t.IsSound) (hsent : Bus.Sent { t.bus with bindings } b channels e)
    {flush : Nat} (he : e.isBarrier flush = false) :
    t.answers flush + b.barriers flush ≤ t.awaited flush := by
  have hbarriers := hsent.barriers flush
  simp only [he, Bool.false_eq_true, if_false, Nat.add_zero] at hbarriers
  exact Nat.le_trans (Nat.add_le_add_left hbarriers _) (h.balance flush)

/-- What a flush covers stays covered behind it. -/
theorem IsSound.covered_sent (h : t.IsSound) (hsent : Bus.Sent { t.bus with bindings } b channels e)
    {flush : Nat} {before : List Happening} (hbegan : (flushBegan flush).StandsIn t.history before)
    {i : Nat} (hbound : (pairOf? i before).isSome = true) :
    Covers flush (addressed i before) (handledBy i t.history) (t.busy i) (b.waitingAt i) := by
  rw [hsent.waiting]
  exact ((h.covered flush before hbegan).2 i hbound).append _

end Sent

theorem IsSound.unbind (h : t.IsSound) (queue : String) : (t.step (.unbind queue)).IsSound := by
  unfold step
  simp only
  split
  · exact h
  split
  · rename_i r hfind
    have hsent := Bus.sent_unbind hfind
    refine ⟨h.ordered.unbind hfind, ?pairs, h.calls, ?line, ?leaving, ?gone, ?balance, ?unbegun,
      ?covered, h.settles_cons (by simp)⟩
    case pairs =>
      intro i
      rw [h.ordered.pairAt_unbind hfind, pairOf?, h.pairs]
    case line =>
      intro i
      rw [hsent.waiting, toDeliver_append_of_nil]
      · exact h.line i
      · split <;> rfl
    case leaving =>
      intro i hmem
      rcases hsent.mem_waiting hmem with hold | ⟨-, hchannel⟩
      · exact List.mem_cons_of_mem _ (h.leaving i hold)
      · rw [List.mem_singleton.mp hchannel]
        exact List.mem_cons_self
    case gone => exact fun i hended => h.gone_sent hsent _ (by simpa using hended)
    case balance => exact fun flush => h.balance_sent hsent rfl
    case unbegun =>
      intro flush hle
      rw [Bus.flushes_unbind] at hle
      exact h.unbegun flush hle
    case covered =>
      intro flush before hbegan
      rcases hbegan.of_cons with ⟨hnew, -⟩ | hold
      · cases hnew
      · exact ⟨(t.bus.flushes_unbind queue).symm ▸ (h.covered flush before hold).1,
          fun i hbound => h.covered_sent hsent hold hbound⟩
  · rename_i hfind
    rw [Bus.unbind_of_none hfind]
    exact h

/-- What a publish notes, and what it sends, is all that comes to the traffic. -/
theorem IsSound.told (h : t.IsSound) {new : Happening} (hnew : new.isPublishing = true)
    {bus : Bus} {channels : List Nat} {payload : Payload}
    (hsent : Bus.Sent t.bus bus channels (.deliver payload))
    (hflushes : bus.flushes = t.bus.flushes)
    (hbound : ∀ i ∈ channels, (t.bus.pairAt? i).isSome = true)
    (haddressed : ∀ i, addressed i (new :: t.history) =
      addressed i t.history ++ if i ∈ channels then [payload] else [])
    (publishes : Nat) (sending : Nat → Option Publishing) :
    IsSound { t with bus, publishes, sending, history := new :: t.history } := by
  obtain ⟨hpair, hcalled, hhandled⟩ := cons_of_isPublishing hnew t.history
  obtain ⟨hbegan, hended, hgone⟩ := ne_of_isPublishing hnew
  refine ⟨h.ordered.sent hsent (by simp), ?pairs, ?calls, ?line, ?leaving, ?gone, ?balance,
    ?unbegun, ?covered, h.settles_cons hended⟩
  case pairs => exact fun i => (hpair i).trans ((h.pairs i).trans (hsent.pairAt i).symm)
  case calls => exact fun i => by simp only [hcalled, hhandled, h.calls]
  case line =>
    intro i
    simp only [hcalled]
    rw [haddressed, hsent.waiting]
    by_cases hi : i ∈ channels
    · obtain ⟨hopen, hnone⟩ := h.ordered.received_of_pairAt (hbound i hi)
      rw [if_pos hi, if_pos ⟨hi, hopen⟩, toDeliver_append_deliver hnone, h.line, List.append_assoc]
    · rw [if_neg hi, if_neg (fun hboth => hi hboth.1), List.append_nil, List.append_nil, h.line]
  case leaving => exact fun i hmem => h.leaving_sent hsent (by simp) _ hmem
  case gone =>
    intro i hmem
    rcases List.mem_cons.mp hmem with heq | hold
    · exact absurd heq.symm (hgone i)
    · exact h.gone_sent hsent _ hold
  case balance => exact fun flush => h.balance_sent hsent rfl
  case unbegun => exact fun flush hle => h.unbegun flush (hflushes ▸ hle)
  case covered =>
    intro flush before hmem
    rcases hmem.of_cons with ⟨heq, -⟩ | hold
    · exact absurd heq (hbegan flush)
    · simp only [hhandled, hflushes]
      exact ⟨(h.covered flush before hold).1, fun i hbound => h.covered_sent hsent hold hbound⟩

theorem IsSound.publish (h : t.IsSound) (exchange routingKey : String) (payload : Payload) :
    (t.step (.publish exchange routingKey payload)).IsSound := by
  refine h.told rfl (h.ordered.publish exchange routingKey payload) (Bus.flushes_publish ..) ?_ ?_
    t.publishes t.sending
  · intro i hi
    rw [h.ordered.mem_routes.mp hi]
    rfl
  · intro i
    simp only [addressed, h.ordered.mem_routes, h.pairs]
    split
    · rfl
    · rw [List.append_nil]

theorem IsSound.beginPublish (h : t.IsSound) (exchange routingKey : String) (payload : Payload) :
    (t.step (.beginPublish exchange routingKey payload)).IsSound :=
  h.told rfl (Bus.sent_nil t.bus (.deliver payload)) rfl (by simp) (by simp [addressed]) _ _

/-- A publish that is under way sends to a queue of its pair. -/
theorem IsSound.send (h : t.IsSound) (hrouted : t.IsRouted) (publish : Nat) :
    (t.step (.send publish)).IsSound := by
  unfold step
  simp only
  split
  · rename_i exchange routingKey payload channel rest hsending
    have hpair := hrouted.routed publish _ hsending channel List.mem_cons_self
    have hsent : Bus.Sent t.bus (t.bus.send channel (.deliver payload)) [channel]
        (.deliver payload) := (Bus.sent_nil t.bus _).send List.not_mem_nil
    refine h.told rfl hsent (Bus.send_flushes ..) ?_ ?_ t.publishes _
    · simp [hpair]
    · intro i
      simp only [addressed, h.pairs, List.mem_singleton]
      by_cases hi : channel = i
      · subst hi
        rw [if_pos ⟨rfl, hpair⟩, if_pos rfl]
      · rw [if_neg (fun hboth => hi hboth.1), if_neg (Ne.symm hi), List.append_nil]
  · exact h

theorem IsSound.endPublish (h : t.IsSound) (publish : Nat) :
    (t.step (.endPublish publish)).IsSound := by
  unfold step
  simp only
  split
  · rename_i exchange routingKey payload hsending
    exact h.told rfl (Bus.sent_nil t.bus (.deliver payload)) rfl (by simp) (by simp [addressed]) _ _
  · exact h

/-- A flush waits for an answer of each thread that has its barrier. -/
theorem IsSound.balance_beginFlush (h : t.IsSound) (flush : Nat) :
    (t.step .beginFlush).answers flush + (t.step .beginFlush).bus.barriers flush ≤
      (t.step .beginFlush).awaited flush := by
  have hsent := h.ordered.beginFlush
  simp only [step]
  by_cases hflush : flush = t.bus.flushes
  · subst hflush
    have hcount : t.bus.bindings.countP (t.bus.isOpen ·.channel) =
        (t.bus.bindings.map (·.channel)).length := by
      rw [List.length_map, List.countP_eq_length]
      exact fun r hr => (h.ordered.received r hr).1
    have hbarriers := hsent.barriers t.bus.flushes
    have hbalance := h.balance t.bus.flushes
    rw [h.unbegun _ (Nat.le_refl _)] at hbalance
    rw [Function.update_self, hcount]
    simp only [Envelope.isBarrier, beq_self_eq_true, if_true] at hbarriers
    omega
  · rw [Function.update_of_ne hflush]
    exact h.balance_sent hsent (by simpa [Envelope.isBarrier] using Ne.symm hflush)

/-- The barrier of a flush that begins stands behind all that was published. -/
theorem IsSound.covers_beginFlush (h : t.IsSound) {i : Nat}
    (hbound : (pairOf? i t.history).isSome = true) :
    Covers t.bus.flushes (addressed i t.history) (handledBy i t.history) (t.busy i)
      (t.bus.beginFlush.waitingAt i) := by
  rw [h.pairs] at hbound
  have hreceived := h.ordered.received_of_pairAt hbound
  rw [h.ordered.beginFlush.waiting, if_pos ⟨h.ordered.mem_channels.mpr hbound, hreceived.1⟩]
  have hall : addressed i t.history =
      handledBy i t.history ++ (t.busy i).toList ++ toDeliver (t.bus.waitingAt i) := by
    rw [h.line, h.calls]
  refine ⟨fun _ => ?_, fun hnot => absurd (by simp) hnot⟩
  rw [ahead_barrier (h.barrier_notMem i)]
  exact hall ▸ List.prefix_rfl

theorem IsSound.beginFlush (h : t.IsSound) : (t.step .beginFlush).IsSound := by
  have hsent := h.ordered.beginFlush
  refine ⟨h.ordered.sent hsent (by simp), ?pairs, h.calls, ?line, ?leaving, ?gone,
    h.balance_beginFlush, ?unbegun, ?covered, h.settles_cons (by simp)⟩
  case pairs =>
    intro i
    exact (h.pairs i).trans (hsent.pairAt i).symm
  case line =>
    intro i
    simp only [step, addressed, calledWith]
    rw [hsent.waiting, toDeliver_append_of_nil]
    · exact h.line i
    · split <;> rfl
  case leaving => exact fun i hmem => h.leaving_sent hsent (by simp) _ hmem
  case gone => exact fun i hended => h.gone_sent hsent _ (by simpa [step] using hended)
  case unbegun =>
    intro flush hle
    simp only [step, Bus.flushes_beginFlush] at hle ⊢
    rw [Function.update_of_ne (by omega)]
    exact h.unbegun flush (by omega)
  case covered =>
    intro flush before hbegan
    simp only [step, Bus.flushes_beginFlush]
    rcases hbegan.of_cons with ⟨hnew, rfl⟩ | hold
    · cases hnew
      exact ⟨Nat.lt_succ_self _, fun i hbound => h.covers_beginFlush hbound⟩
    · exact ⟨Nat.lt_succ_of_lt (h.covered flush before hold).1,
        fun i hbound => h.covered_sent hsent hold hbound⟩

/-- All barriers of a flush that has its answers are gone, and what was ahead of them is handled. -/
theorem IsSound.endFlush (h : t.IsSound) (flush : Nat) : (t.step (.endFlush flush)).IsSound := by
  unfold step
  simp only
  split
  · rename_i hend
    have hgone : ∀ i, .barrier flush ∉ t.bus.waitingAt i := by
      intro i hmem
      have hpos := Bus.barriers_pos hmem
      have hbalance := h.balance flush
      omega
    refine ⟨h.ordered, h.pairs, h.calls, h.line, ?leaving, ?gone, h.balance, h.unbegun, ?covered,
      ?settles⟩
    case leaving => exact fun i hmem => List.mem_cons_of_mem _ (h.leaving i hmem)
    case gone =>
      intro i hended
      obtain ⟨hunbound, hrest⟩ := h.gone i (by simpa using hended)
      exact ⟨List.mem_cons_of_mem _ hunbound, hrest⟩
    case covered => exact fun n before hbegan => h.covered_cons (by simp) hbegan
    case settles =>
      apply h.settles.cons
      intro n between before heq hpast i hbound
      cases heq
      exact ((h.covered flush before ⟨between, hpast⟩).2 i hbound).passed (hgone i)
  · exact h

theorem IsSound.finish (h : t.IsSound) (channel : Nat) (crashed : Bool) :
    (t.step (.finish channel crashed)).IsSound := by
  unfold step
  simp only
  split
  · rename_i payload hbusy
    refine ⟨h.ordered, h.pairs, ?calls, h.line, ?leaving, ?gone, h.balance, h.unbegun, ?covered,
      h.settles_cons (by simp)⟩
    case calls =>
      intro i
      simp only [calledWith, handledBy]
      by_cases hi : channel = i
      · subst hi
        rw [h.calls, hbusy, if_pos rfl, Function.update_self]
        simp
      · rw [if_neg hi, Function.update_of_ne (Ne.symm hi), h.calls]
    case leaving => exact fun i hmem => List.mem_cons_of_mem _ (h.leaving i hmem)
    case gone =>
      intro i hended
      obtain ⟨hunbound, hlt, hclosed, hempty, hidle⟩ := h.gone i (by simpa using hended)
      refine ⟨List.mem_cons_of_mem _ hunbound, hlt, hclosed, hempty, ?_⟩
      have hi : i ≠ channel := by
        rintro rfl
        rw [hidle] at hbusy
        cases hbusy
      simp only [Function.update_of_ne hi, hidle]
    case covered =>
      intro flush before hbegan
      obtain ⟨hlt, hcovers⟩ := h.covered_cons (by simp) hbegan
      refine ⟨hlt, ?_⟩
      intro i hbound
      simp only [handledBy]
      by_cases hi : channel = i
      · subst hi
        have hold := hcovers channel hbound
        rw [hbusy] at hold
        rw [if_pos rfl, Function.update_self]
        exact hold.finish
      · rw [if_neg hi, Function.update_of_ne (Ne.symm hi)]
        exact hcovers i hbound
  · exact h

/-- A thread that has ended takes nothing out any more. -/
theorem IsSound.gone_taken (h : t.IsSound) {channel : Nat} {e : Envelope} {bus : Bus}
    (htaken : t.bus.Taken bus channel e) {i : Nat} (hended : .ended i ∈ t.history) :
    i ≠ channel ∧ .unbound i ∈ t.history ∧ i < bus.channels.length ∧ bus.isOpen i = false ∧
      bus.waitingAt i = [] ∧ t.busy i = none := by
  obtain ⟨hunbound, hlt, hclosed, hempty, hidle⟩ := h.gone i hended
  have hi : i ≠ channel := by
    rintro rfl
    have hmem := htaken.mem
    rw [hempty] at hmem
    cases hmem
  obtain ⟨hsame, hsameOpen⟩ := htaken.others i hi
  exact ⟨hi, hunbound, htaken.length.symm ▸ hlt, hsameOpen.trans hclosed, hsame.trans hempty, hidle⟩

theorem IsSound.balance_taken (h : t.IsSound) {channel : Nat} {e : Envelope} {bus : Bus}
    (htaken : t.bus.Taken bus channel e) (flush : Nat) :
    t.answers flush + bus.barriers flush ≤ t.awaited flush := by
  have hbarriers := htaken.barriers flush
  have hbalance := h.balance flush
  omega

/-- The thread of a channel takes out a payload, and calls its callback. -/
theorem IsSound.called (h : t.IsSound) {channel : Nat} {payload : Payload} {bus : Bus}
    (hidle : t.busy channel = none) (htaken : t.bus.Taken bus channel (.deliver payload)) :
    IsSound { t with
      bus
      busy := Function.update t.busy channel (some payload)
      history := .called channel payload :: t.history } := by
  obtain ⟨hwaiting, hopen⟩ := htaken.first (by simp)
  refine ⟨h.ordered.taken htaken, ?pairs, ?calls, ?line, ?leaving, ?gone, ?balance, ?unbegun,
    ?covered, h.settles_cons (by simp)⟩
  case pairs => exact fun i => (h.pairs i).trans (htaken.pairAt i).symm
  case calls =>
    intro i
    simp only [calledWith, handledBy]
    by_cases hi : channel = i
    · subst hi
      rw [if_pos rfl, Function.update_self, h.calls, hidle]
      simp
    · rw [if_neg hi, Function.update_of_ne (Ne.symm hi), h.calls]
  case line =>
    intro i
    simp only [addressed, calledWith]
    by_cases hi : channel = i
    · subst hi
      rw [if_pos rfl, h.line, hwaiting]
      simp [toDeliver]
    · rw [if_neg hi, (htaken.others i (Ne.symm hi)).1, h.line]
  case leaving => exact fun i hmem => List.mem_cons_of_mem _ (h.leaving i (htaken.mem_waiting hmem))
  case gone =>
    intro i hended
    obtain ⟨hi, hunbound, hlt, hclosed, hempty, hidle⟩ :=
      h.gone_taken htaken (i := i) (by simpa using hended)
    refine ⟨List.mem_cons_of_mem _ hunbound, hlt, hclosed, hempty, ?_⟩
    simp only [Function.update_of_ne hi, hidle]
  case balance => exact h.balance_taken htaken
  case unbegun =>
    intro flush hle
    rw [htaken.flushes] at hle
    exact h.unbegun flush hle
  case covered =>
    intro flush before hbegan
    obtain ⟨hlt, hcovers⟩ := h.covered_cons (by simp) hbegan
    refine ⟨htaken.flushes.symm ▸ hlt, ?_⟩
    intro i hbound
    have hold := hcovers i hbound
    simp only [handledBy]
    by_cases hi : i = channel
    · subst hi
      rw [hidle, hwaiting] at hold
      rw [Function.update_self]
      exact hold.deliver
    · rw [Function.update_of_ne hi, (htaken.others i hi).1]
      exact hold

/-- The thread of a channel takes out a barrier, and answers the flush. -/
theorem IsSound.answered (h : t.IsSound) {channel flush : Nat} {bus : Bus}
    (hidle : t.busy channel = none) (htaken : t.bus.Taken bus channel (.barrier flush)) :
    IsSound { t with
      bus
      answers := Function.update t.answers flush (t.answers flush + 1) } := by
  obtain ⟨hwaiting, hopen⟩ := htaken.first (by simp)
  refine ⟨h.ordered.taken htaken, ?pairs, h.calls, ?line, ?leaving, ?gone, ?balance, ?unbegun,
    ?covered, h.settles⟩
  case pairs => exact fun i => (h.pairs i).trans (htaken.pairAt i).symm
  case line =>
    intro i
    by_cases hi : i = channel
    · subst hi
      rw [h.line, hwaiting]
      rfl
    · rw [(htaken.others i hi).1, h.line]
  case leaving => exact fun i hmem => h.leaving i (htaken.mem_waiting hmem)
  case gone => exact fun i hended => (h.gone_taken htaken hended).2
  case balance =>
    intro n
    have hbarriers := htaken.barriers n
    have hbalance := h.balance n
    simp only
    by_cases hn : n = flush
    · subst hn
      simp only [Envelope.isBarrier, beq_self_eq_true, if_true] at hbarriers
      rw [Function.update_self]
      omega
    · rw [Function.update_of_ne hn]
      omega
  case unbegun =>
    intro n hle
    rw [htaken.flushes] at hle
    exact h.unbegun n hle
  case covered =>
    intro n before hbegan
    obtain ⟨hlt, hcovers⟩ := h.covered n before hbegan
    refine ⟨htaken.flushes.symm ▸ hlt, ?_⟩
    intro i hbound
    have hold := hcovers i hbound
    by_cases hi : i = channel
    · subst hi
      rw [hidle, hwaiting] at hold
      rw [hidle]
      exact hold.barrier
    · rw [(htaken.others i hi).1]
      exact hold

/-- The thread of a channel takes out the shutdown, and ends. -/
theorem IsSound.ended (h : t.IsSound) {channel : Nat} {bus : Bus}
    (hidle : t.busy channel = none) (htaken : t.bus.Taken bus channel .shutdown) :
    IsSound { t with bus, history := .ended channel :: t.history } := by
  obtain ⟨⟨lost, hwaiting⟩, hempty, hclosed⟩ := htaken.last rfl
  have hleaving := h.leaving channel htaken.mem
  have hlt := Bus.lt_of_mem_waitingAt htaken.mem
  refine ⟨h.ordered.taken htaken, ?pairs, h.calls, ?line, ?leaving, ?gone, ?balance, ?unbegun,
    ?covered, h.settles_cons (by simp)⟩
  case pairs => exact fun i => (h.pairs i).trans (htaken.pairAt i).symm
  case line =>
    intro i
    simp only [addressed, calledWith]
    by_cases hi : i = channel
    · subst hi
      rw [h.line, hwaiting, hempty]
      rfl
    · rw [(htaken.others i hi).1, h.line]
  case leaving => exact fun i hmem => List.mem_cons_of_mem _ (h.leaving i (htaken.mem_waiting hmem))
  case gone =>
    intro i hended
    rcases List.mem_cons.mp hended with hnew | hold
    · cases hnew
      exact ⟨List.mem_cons_of_mem _ hleaving, htaken.length.symm ▸ hlt, hclosed, hempty, hidle⟩
    · obtain ⟨-, hunbound, hrest⟩ := h.gone_taken htaken hold
      exact ⟨List.mem_cons_of_mem _ hunbound, hrest⟩
  case balance => exact h.balance_taken htaken
  case unbegun =>
    intro flush hle
    rw [htaken.flushes] at hle
    exact h.unbegun flush hle
  case covered =>
    intro flush before hbegan
    obtain ⟨hlt, hcovers⟩ := h.covered_cons (by simp) hbegan
    refine ⟨htaken.flushes.symm ▸ hlt, ?_⟩
    intro i hbound
    have hold := hcovers i hbound
    simp only [handledBy]
    by_cases hi : i = channel
    · subst hi
      rw [hidle, hwaiting] at hold
      exact .of_handled hold.shutdown _
    · rw [(htaken.others i hi).1]
      exact hold

theorem IsSound.step (h : t.IsSound) (hrouted : t.IsRouted) (s : Step) : (t.step s).IsSound := by
  cases s with
  | bind exchange routingKey queue => exact h.bind exchange routingKey queue
  | unbind queue => exact h.unbind queue
  | publish exchange routingKey payload => exact h.publish exchange routingKey payload
  | beginPublish exchange routingKey payload => exact h.beginPublish exchange routingKey payload
  | send publish => exact h.send hrouted publish
  | endPublish publish => exact h.endPublish publish
  | beginFlush => exact h.beginFlush
  | endFlush flush => exact h.endFlush flush
  | finish channel crashed => exact h.finish channel crashed
  | take channel =>
    unfold Traffic.step
    simp only
    split
    · rename_i payload bus hidle htake
      exact h.called hidle (Bus.taken_of_take htake)
    · rename_i flush bus hidle htake
      exact h.answered hidle (Bus.taken_of_take htake)
    · rename_i bus hidle htake
      exact h.ended hidle (Bus.taken_of_take htake)
    · exact h

/-! ## Publishes under way -/

/-- Publishes under way were left alone: what they have to do is as before, and so are the bindings
that they read. One happening may be noted, which is none of theirs. -/
structure Leaves (t t' : Traffic) : Prop where
  publishes : t'.publishes = t.publishes
  sending : t'.sending = t.sending
  pairs : t.isReading = true → ∀ i, t'.bus.pairAt? i = t.bus.pairAt? i
  history : t'.history = t.history ∨
    ∃ new, new.isStepwise = false ∧ t'.history = new :: t.history

theorem Leaves.refl (t : Traffic) : t.Leaves t :=
  ⟨rfl, rfl, fun _ _ => rfl, .inl rfl⟩

/-- Who is not a publish taken channel by channel leaves those that are alone. -/
theorem leaves_step (hordered : t.bus.IsOrdered) {s : Step} (hs : s.isStepwise = false) :
    t.Leaves (t.step s) := by
  cases s with
  | beginPublish | send | endPublish => cases hs
  | publish exchange routingKey payload =>
    exact ⟨rfl, rfl, fun _ => (hordered.publish exchange routingKey payload).pairAt,
      .inr ⟨_, rfl, rfl⟩⟩
  | beginFlush => exact ⟨rfl, rfl, fun _ => hordered.beginFlush.pairAt, .inr ⟨_, rfl, rfl⟩⟩
  | bind exchange routingKey queue =>
    unfold step
    simp only
    split
    · exact .refl t
    · rename_i hidle
      split
      · exact ⟨rfl, rfl, fun hreading => absurd hreading hidle, .inr ⟨_, rfl, rfl⟩⟩
      · exact .refl t
  | unbind queue =>
    unfold step
    simp only
    split
    · exact .refl t
    · rename_i hidle
      split
      · exact ⟨rfl, rfl, fun hreading => absurd hreading hidle, .inr ⟨_, rfl, rfl⟩⟩
      · exact ⟨rfl, rfl, fun hreading => absurd hreading hidle, .inl rfl⟩
  | endFlush flush =>
    unfold step
    simp only
    split
    · exact ⟨rfl, rfl, fun _ _ => rfl, .inr ⟨_, rfl, rfl⟩⟩
    · exact .refl t
  | finish channel crashed =>
    unfold step
    simp only
    split
    · exact ⟨rfl, rfl, fun _ _ => rfl, .inr ⟨_, rfl, rfl⟩⟩
    · exact .refl t
  | take channel =>
    unfold step
    simp only
    split
    · rename_i htake
      exact ⟨rfl, rfl, fun _ => (Bus.taken_of_take htake).pairAt, .inr ⟨_, rfl, rfl⟩⟩
    · rename_i htake
      exact ⟨rfl, rfl, fun _ => (Bus.taken_of_take htake).pairAt, .inl rfl⟩
    · rename_i htake
      exact ⟨rfl, rfl, fun _ => (Bus.taken_of_take htake).pairAt, .inr ⟨_, rfl, rfl⟩⟩
    · exact .refl t

/-- Nobody reads the bindings where no publish is under way. -/
theorem IsRouted.sending_eq_none (h : t.IsRouted) (hidle : ¬ t.isReading) (publish : Nat) :
    t.sending publish = none := by
  by_cases hlt : publish < t.publishes
  · have hnone : ∀ n ∈ List.range t.publishes, ¬ (t.sending n).isSome = true := by
      simpa [isReading] using hidle
    simpa using hnone publish (List.mem_range.mpr hlt)
  · exact h.fresh publish (Nat.le_of_not_lt hlt)

/-- Where the bindings stay and no publish has more to do, publishes stay on their way. -/
theorem IsRouted.of_less (h : t.IsRouted) {t' : Traffic} (hpublishes : t'.publishes = t.publishes)
    (hpair : ∀ i, t'.bus.pairAt? i = t.bus.pairAt? i)
    (hless : ∀ publish p', t'.sending publish = some p' → ∃ p, t.sending publish = some p ∧
      p'.exchange = p.exchange ∧ p'.routingKey = p.routingKey ∧ p'.remaining ⊆ p.remaining) :
    t'.IsRouted where
  fresh publish hle := by
    rw [Option.eq_none_iff_forall_ne_some]
    intro p' hp'
    obtain ⟨p, hp, -⟩ := hless publish p' hp'
    rw [h.fresh publish (hpublishes ▸ hle)] at hp
    cases hp
  routed publish p' hp' i hi := by
    obtain ⟨p, hp, hexchange, hkey, hsub⟩ := hless publish p' hp'
    rw [hpair, hexchange, hkey]
    exact h.routed publish p hp i (hsub hi)

/-- Publishes that are left alone stay on their way. -/
theorem IsRouted.of_leaves (h : t.IsRouted) {t' : Traffic} (hleaves : t.Leaves t') :
    t'.IsRouted := by
  by_cases hreading : t.isReading = true
  · refine h.of_less hleaves.publishes (hleaves.pairs hreading) ?_
    exact fun _ p hp => ⟨p, hleaves.sending ▸ hp, rfl, rfl, List.Subset.refl _⟩
  · have hnone : ∀ publish, t'.sending publish = none := by
      rw [hleaves.sending]
      exact h.sending_eq_none hreading
    refine ⟨fun publish _ => hnone publish, fun publish p hp => ?_⟩
    rw [hnone] at hp
    cases hp

theorem IsRouted.beginPublish (h : t.IsRouted) (hordered : t.bus.IsOrdered)
    (exchange routingKey : String) (payload : Payload) :
    (t.step (.beginPublish exchange routingKey payload)).IsRouted := by
  refine ⟨?_, ?_⟩
  · intro publish hle
    simp only [step] at hle ⊢
    rw [Function.update_of_ne (by omega)]
    exact h.fresh publish (by omega)
  · intro publish p hp i hi
    simp only [step] at hp ⊢
    by_cases heq : publish = t.publishes
    · subst heq
      rw [Function.update_self] at hp
      cases hp
      exact hordered.mem_routes.mp hi
    · rw [Function.update_of_ne heq] at hp
      exact h.routed publish p hp i hi

theorem IsRouted.send (h : t.IsRouted) (publish : Nat) : (t.step (.send publish)).IsRouted := by
  unfold step
  simp only
  split
  · rename_i exchange routingKey payload channel rest hsending
    refine h.of_less rfl (fun _ => rfl) ?_
    intro other p' hp'
    by_cases heq : other = publish
    · simp only [heq, Function.update_self, Option.some.injEq] at hp'
      subst heq hp'
      exact ⟨_, hsending, rfl, rfl, List.subset_cons_self _ _⟩
    · simp only [Function.update_of_ne heq] at hp'
      exact ⟨p', hp', rfl, rfl, List.Subset.refl _⟩
  · exact h

theorem IsRouted.endPublish (h : t.IsRouted) (publish : Nat) :
    (t.step (.endPublish publish)).IsRouted := by
  unfold step
  simp only
  split
  · refine h.of_less rfl (fun _ => rfl) ?_
    intro other p' hp'
    by_cases heq : other = publish
    · simp [heq] at hp'
    · simp only [Function.update_of_ne heq] at hp'
      exact ⟨p', hp', rfl, rfl, List.Subset.refl _⟩
  · exact h

theorem IsRouted.step (h : t.IsRouted) (hordered : t.bus.IsOrdered) (s : Step) :
    (t.step s).IsRouted := by
  cases s with
  | beginPublish exchange routingKey payload => exact h.beginPublish hordered ..
  | send publish => exact h.send publish
  | endPublish publish => exact h.endPublish publish
  | _ => exact h.of_leaves (leaves_step hordered rfl)

/-- What holds of new traffic and is kept by each step holds of any traffic. -/
theorem run_induction {motive : Traffic → Prop} (hempty : motive {})
    (hstep : ∀ t, motive t → ∀ s, motive (t.step s)) (steps : List Step) : motive (run steps) := by
  unfold run
  suffices h : ∀ t : Traffic, motive t → motive (steps.foldl Traffic.step t) from h {} hempty
  intro t ht
  induction steps generalizing t with
  | nil => exact ht
  | cons s rest ih => exact ih _ (hstep t ht s)

theorem isSound_run (steps : List Step) : (run steps).IsSound ∧ (run steps).IsRouted :=
  run_induction (motive := fun t => t.IsSound ∧ t.IsRouted)
    ⟨isSound_empty, fun _ _ => rfl, nofun⟩
    (fun _ h s => ⟨h.1.step h.2 s, h.2.step h.1.ordered s⟩) steps

end Traffic

/-- Whatever steps a bus and its threads take, and in whatever order: the names of bound queues
differ; the callback of a queue has been called with the first of what was published to its pair
while it was bound, in this order; a flush that ends has found handled, by each queue that was bound
when it began, all that had been published then; and a thread that ends was unbound and has handled
all that was published for it, also when some of the calls crashed. -/
theorem traffic_is_handled_in_order_and_whole (steps : List Traffic.Step) :
    ((Traffic.run steps).bus.bindings.map (·.queue)).Nodup ∧
      (∀ i, pairOf? i (Traffic.run steps).history = (Traffic.run steps).bus.pairAt? i) ∧
      (∀ i, calledWith i (Traffic.run steps).history <+: addressed i (Traffic.run steps).history) ∧
      (∀ flush later between before, (Traffic.run steps).history =
          later ++ .flushEnded flush :: (between ++ .flushBegan flush :: before) →
        ∀ i, (pairOf? i before).isSome = true →
          addressed i before <+: handledBy i (between ++ .flushBegan flush :: before)) ∧
      ∀ i, .ended i ∈ (Traffic.run steps).history → .unbound i ∈ (Traffic.run steps).history ∧
        handledBy i (Traffic.run steps).history = addressed i (Traffic.run steps).history := by
  obtain ⟨h, -⟩ := Traffic.isSound_run steps
  refine ⟨h.ordered.queues, h.pairs, ?_, h.settles, ?_⟩
  · intro i
    rw [h.line]
    exact List.prefix_append _ _
  · intro i hended
    obtain ⟨hunbound, -, -, hempty, hidle⟩ := h.gone i hended
    refine ⟨hunbound, ?_⟩
    rw [h.line, h.calls, hempty, hidle]
    simp [toDeliver]

/-- A queue whose callback crashes at the first of two events, with a flush begun between them. -/
def crashingTraffic : List Traffic.Step :=
  [.bind "demo" "cpu" "watch", .publish "demo" "cpu" (.interval "first"), .beginFlush, .take 0,
    .publish "demo" "cpu" (.interval "second"), .endFlush 0, .finish 0 true, .take 0, .endFlush 0,
    .unbind "watch", .publish "demo" "cpu" (.interval "third"), .take 0, .finish 0 false, .take 0]

theorem crashing_traffic_is_handled :
    ∃ later between before, (Traffic.run crashingTraffic).history =
        later ++ .flushEnded 0 :: (between ++ .flushBegan 0 :: before) ∧
      addressed 0 before = [.interval "first"] ∧
      addressed 0 before <+: handledBy 0 (between ++ .flushBegan 0 :: before) ∧
      handledBy 0 (Traffic.run crashingTraffic).history =
        [.interval "first", .interval "second"] := by
  obtain ⟨-, -, -, hflushed, hended⟩ := traffic_is_handled_in_order_and_whole crashingTraffic
  have hhistory : (Traffic.run crashingTraffic).history =
      [.ended 0, .handled 0 (.interval "second") false, .called 0 (.interval "second"),
        .published "demo" "cpu" (.interval "third"), .unbound 0] ++ .flushEnded 0 ::
      ([.handled 0 (.interval "first") true, .published "demo" "cpu" (.interval "second"),
        .called 0 (.interval "first")] ++ .flushBegan 0 ::
      [.published "demo" "cpu" (.interval "first"), .bound 0 "demo" "cpu"]) := rfl
  refine ⟨_, _, _, hhistory, rfl, hflushed 0 _ _ _ hhistory 0 rfl, ?_⟩
  rw [(hended 0 (by simp [hhistory])).2, hhistory]
  rfl

end Watchtower.Live
