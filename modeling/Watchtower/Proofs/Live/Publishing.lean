-- Publishes taken channel by channel. What is bound to the pair of a publish when it begins stays
-- bound until it ends; so one that has ended was sent once into each channel of its pair and into
-- no other, whoever came between. Where nobody does, it leaves the bus as a publish taken whole.
import Watchtower.Proofs.Live.Traffic

namespace Watchtower.Live

/-! ## What a publish sends -/

namespace Happening

/-- What a publish has sent into a channel. -/
def sentBy (publish channel : Nat) : List Happening → List Payload
  | [] => []
  | .sent n other _ _ payload :: past =>
    if n = publish ∧ other = channel then sentBy publish channel past ++ [payload]
    else sentBy publish channel past
  | _ :: past => sentBy publish channel past

theorem sentBy_cons {new : Happening} (h : new.isStepwise = false) (publish channel : Nat)
    (past : List Happening) : sentBy publish channel (new :: past) = sentBy publish channel past := by
  cases new with
  | publishBegan | sent | publishEnded => cases h
  | _ => rfl

theorem addressed_sublist_cons (new : Happening) (channel : Nat) (past : List Happening) :
    (addressed channel past).Sublist (addressed channel (new :: past)) := by
  cases new with
  | published | sent =>
    simp only [addressed]
    split
    · exact List.sublist_append_left _ _
    · exact List.Sublist.refl _
  | _ => exact List.Sublist.refl _

end Happening

open Happening

/-- What a publish has still to send into a channel. -/
def unsent : Option Publishing → Nat → List Payload
  | some p, channel => if channel ∈ p.remaining then [p.payload] else []
  | none, _ => []

/-- For each channel, what was sent there and what is still to be sent there is what it is told. -/
structure Reaches (told sent : Nat → List Payload) (sending : Option Publishing) : Prop where
  distinct : ∀ p, sending = some p → p.remaining.Nodup
  once : ∀ i, sent i ++ unsent sending i = told i

namespace Reaches

variable {exchange routingKey : String} {payload : Payload} {told sent : Nat → List Payload}

theorem send {channel : Nat} {rest : List Nat}
    (h : Reaches told sent (some ⟨exchange, routingKey, payload, channel :: rest⟩)) :
    Reaches told (fun i => if channel = i then sent i ++ [payload] else sent i)
      (some ⟨exchange, routingKey, payload, rest⟩) := by
  obtain ⟨hnew, hrest⟩ := List.nodup_cons.mp (h.distinct _ rfl)
  refine ⟨?_, fun i => ?_⟩
  · rintro _ ⟨⟩
    exact hrest
  · have honce := h.once i
    by_cases hi : channel = i
    · subst hi
      simpa [unsent, hnew] using honce
    · simpa [unsent, hi, Ne.symm hi] using honce

theorem finish (h : Reaches told sent (some ⟨exchange, routingKey, payload, []⟩)) :
    Reaches told sent none :=
  ⟨nofun, h.once⟩

end Reaches

namespace Traffic

/-! ## What all traffic keeps -/

/-- What holds of publishes at every point of the traffic. -/
structure IsReaching (t : Traffic) : Prop where
  silent : ∀ publish, t.publishes ≤ publish → ∀ i, sentBy publish i t.history = []
  /-- Each publish that began is on its way to what was bound to its pair. -/
  reaching : ∀ publish exchange routingKey payload before,
    (publishBegan publish exchange routingKey payload).StandsIn t.history before →
      publish < t.publishes ∧ Reaches
        (fun i => if pairOf? i before = some (exchange, routingKey) then [payload] else [])
        (fun i => sentBy publish i t.history) (t.sending publish)
  closed : ∀ publish, .publishEnded publish ∈ t.history →
    publish < t.publishes ∧ t.sending publish = none
  addressed : ∀ publish i, (sentBy publish i t.history).Sublist (addressed i t.history)

theorem isReaching_empty : IsReaching {} where
  silent _ _ _ := rfl
  reaching publish exchange routingKey payload before h := by
    obtain ⟨later, heq⟩ := h
    simp at heq
  closed _ h := by cases h
  addressed _ _ := List.Sublist.refl _

variable {t : Traffic}

/-- Publishes that are left alone stay on their way to what was bound to their pairs. -/
theorem IsReaching.of_leaves (h : t.IsReaching) {t' : Traffic} (hleaves : t.Leaves t') :
    t'.IsReaching := by
  obtain ⟨hpublishes, hsending, -, hsame | ⟨new, hnew, hhistory⟩⟩ := hleaves
  · obtain ⟨hsilent, hreaching, hclosed, haddressed⟩ := h
    constructor
    all_goals simpa only [hsame, hpublishes, hsending]
  · have hsent := fun publish i => sentBy_cons hnew publish i t.history
    refine ⟨?silent, ?reaching, ?closed, ?addressed⟩
    case silent =>
      intro publish hle i
      rw [hhistory, hsent]
      exact h.silent publish (hpublishes ▸ hle) i
    case reaching =>
      intro publish exchange routingKey payload before hbegan
      rw [hhistory] at hbegan
      rw [hhistory, hpublishes, hsending]
      simp only [hsent]
      rcases hbegan.of_cons with ⟨rfl, -⟩ | hold
      · cases hnew
      · exact h.reaching publish exchange routingKey payload before hold
    case closed =>
      intro publish hmem
      rw [hhistory] at hmem
      rw [hpublishes, hsending]
      rcases List.mem_cons.mp hmem with rfl | hold
      · cases hnew
      · exact h.closed publish hold
    case addressed =>
      intro publish i
      rw [hhistory, hsent]
      exact (h.addressed publish i).trans (addressed_sublist_cons new i t.history)

/-- A publish that begins has to reach what is bound to its pair. -/
theorem IsReaching.beginPublish (h : t.IsReaching) (hsound : t.IsSound)
    (exchange routingKey : String) (payload : Payload) :
    (t.step (.beginPublish exchange routingKey payload)).IsReaching := by
  refine ⟨?silent, ?reaching, ?closed, h.addressed⟩
  case silent => exact fun publish hle => h.silent publish (Nat.le_of_succ_le hle)
  case reaching =>
    intro publish exchange' routingKey' payload' before hbegan
    rcases hbegan.of_cons with ⟨hnew, rfl⟩ | hold
    · cases hnew
      refine ⟨Nat.lt_succ_self _, ?_, fun i => ?_⟩
      · intro p hp
        simp only [step, Function.update_self, Option.some.injEq] at hp
        subst hp
        exact hsound.ordered.channels.sublist (List.filter_sublist.map _)
      · have hnone : sentBy t.publishes i t.history = [] := h.silent _ (Nat.le_refl _) i
        simp only [step, sentBy, hnone, Function.update_self, unsent, List.nil_append,
          hsound.ordered.mem_routes, hsound.pairs]
    · obtain ⟨hlt, hreaches⟩ := h.reaching publish exchange' routingKey' payload' before hold
      refine ⟨Nat.lt_succ_of_lt hlt, ?_⟩
      simp only [step, Function.update_of_ne (Nat.ne_of_lt hlt)]
      exact hreaches
  case closed =>
    intro publish hended
    obtain ⟨hlt, hnone⟩ := h.closed publish (by simpa [step] using hended)
    refine ⟨Nat.lt_succ_of_lt hlt, ?_⟩
    simp only [step, Function.update_of_ne (Nat.ne_of_lt hlt), hnone]

/-- A publish that is under way began. -/
theorem IsRouted.lt_of_sending (h : t.IsRouted) {publish : Nat} {p : Publishing}
    (hsending : t.sending publish = some p) : publish < t.publishes := by
  by_contra hge
  rw [h.fresh publish (Nat.le_of_not_lt hge)] at hsending
  cases hsending

theorem IsReaching.send (h : t.IsReaching) (hsound : t.IsSound) (hrouted : t.IsRouted)
    (publish : Nat) : (t.step (.send publish)).IsReaching := by
  unfold step
  simp only
  split
  · rename_i exchange routingKey payload channel rest hsending
    have hlt := hrouted.lt_of_sending hsending
    have hpair : pairOf? channel t.history = some (exchange, routingKey) :=
      (hsound.pairs channel).trans (hrouted.routed publish _ hsending channel List.mem_cons_self)
    have hother : ∀ n, n ≠ publish → ∀ i,
        sentBy n i (.sent publish channel exchange routingKey payload :: t.history) =
          sentBy n i t.history :=
      fun n hn i => if_neg fun hboth => hn hboth.1.symm
    refine ⟨?silent, ?reaching, ?closed, ?addressed⟩
    case silent =>
      intro n hle i
      have hlate : t.publishes ≤ n := hle
      exact (hother n (by omega) i).trans (h.silent n hlate i)
    case reaching =>
      intro n exchange' routingKey' payload' before hbegan
      rcases hbegan.of_cons with ⟨hnew, -⟩ | hold
      · cases hnew
      · obtain ⟨hlt, hreaches⟩ := h.reaching n exchange' routingKey' payload' before hold
        refine ⟨hlt, ?_⟩
        by_cases hn : n = publish
        · subst hn
          rw [hsending] at hreaches
          simp only [Function.update_self, sentBy, true_and]
          exact hreaches.send
        · simp only [Function.update_of_ne hn, hother n hn]
          exact hreaches
    case closed =>
      intro n hended
      obtain ⟨hlt, hnone⟩ := h.closed n (by simpa using hended)
      refine ⟨hlt, ?_⟩
      have hn : n ≠ publish := by
        rintro rfl
        rw [hsending] at hnone
        cases hnone
      simp only [Function.update_of_ne hn, hnone]
    case addressed =>
      intro n i
      by_cases hsame : publish = n ∧ channel = i
      · obtain ⟨rfl, rfl⟩ := hsame
        simp only [sentBy, Happening.addressed, hpair, and_self, if_true]
        exact (h.addressed publish channel).append (List.Sublist.refl _)
      · simp only [sentBy, if_neg hsame]
        exact (h.addressed n i).trans (addressed_sublist_cons _ i t.history)
  · exact h

theorem IsReaching.endPublish (h : t.IsReaching) (hrouted : t.IsRouted) (publish : Nat) :
    (t.step (.endPublish publish)).IsReaching := by
  unfold step
  simp only
  split
  · rename_i exchange routingKey payload hsending
    refine ⟨h.silent, ?reaching, ?closed, h.addressed⟩
    case reaching =>
      intro n exchange' routingKey' payload' before hbegan
      rcases hbegan.of_cons with ⟨hnew, -⟩ | hold
      · cases hnew
      · obtain ⟨hlt, hreaches⟩ := h.reaching n exchange' routingKey' payload' before hold
        refine ⟨hlt, ?_⟩
        by_cases hn : n = publish
        · subst hn
          rw [hsending] at hreaches
          simp only [Function.update_self]
          exact hreaches.finish
        · simp only [Function.update_of_ne hn]
          exact hreaches
    case closed =>
      intro n hended
      by_cases hn : n = publish
      · subst hn
        exact ⟨hrouted.lt_of_sending hsending, Function.update_self ..⟩
      · obtain ⟨hlt, hnone⟩ := h.closed n (by simpa [hn] using hended)
        refine ⟨hlt, ?_⟩
        simp only [Function.update_of_ne hn, hnone]
  · exact h

theorem IsReaching.step (h : t.IsReaching) (hsound : t.IsSound) (hrouted : t.IsRouted) (s : Step) :
    (t.step s).IsReaching := by
  cases s with
  | beginPublish exchange routingKey payload => exact h.beginPublish hsound ..
  | send publish => exact h.send hsound hrouted publish
  | endPublish publish => exact h.endPublish hrouted publish
  | _ => exact h.of_leaves (leaves_step hsound.ordered rfl)

theorem isReaching_run (steps : List Step) : (run steps).IsReaching := by
  have hall := run_induction
    (motive := fun t => (t.IsSound ∧ t.IsRouted) ∧ t.IsReaching)
    ⟨isSound_run [], isReaching_empty⟩
    (fun _ h s => ⟨⟨h.1.1.step h.1.2 s, h.1.2.step h.1.1.ordered s⟩, h.2.step h.1.1 h.1.2 s⟩) steps
  exact hall.2

end Traffic

/-- Whatever comes between its steps, a publish that has ended was sent once into each channel that
was bound to its pair when it began, and into no other; and it is among what is published for the
queue there. -/
theorem a_publish_reaches_the_queues_of_its_pair {steps : List Traffic.Step} {publish : Nat}
    {exchange routingKey : String} {payload : Payload} {before : List Happening}
    (hbegan : (publishBegan publish exchange routingKey payload).StandsIn (Traffic.run steps).history
      before) (hended : .publishEnded publish ∈ (Traffic.run steps).history) (i : Nat) :
    sentBy publish i (Traffic.run steps).history =
        (if pairOf? i before = some (exchange, routingKey) then [payload] else []) ∧
      (sentBy publish i (Traffic.run steps).history).Sublist
        (addressed i (Traffic.run steps).history) := by
  have h := Traffic.isReaching_run steps
  obtain ⟨-, hnone⟩ := h.closed publish hended
  have honce := (h.reaching publish exchange routingKey payload before hbegan).2.once i
  rw [hnone] at honce
  exact ⟨(List.append_nil _).symm.trans honce, h.addressed publish i⟩

/-- Two publishes that overlap, to a pair with two queues. -/
def overlappingTraffic : List Traffic.Step :=
  [.bind "demo" "cpu" "watch", .bind "demo" "cpu" "log",
    .beginPublish "demo" "cpu" (.interval "first"), .beginPublish "demo" "cpu" (.interval "second"),
    .send 0, .send 1, .unbind "log", .send 1, .send 0, .endPublish 0, .endPublish 1]

example : addressed 0 (Traffic.run overlappingTraffic).history =
      [.interval "first", .interval "second"] ∧
    addressed 1 (Traffic.run overlappingTraffic).history =
      [.interval "second", .interval "first"] := ⟨rfl, rfl⟩

/-- The steps of a publish that is under way send into the channels that remain, one by one. -/
theorem bus_send_steps {t : Traffic} {publish : Nat} {exchange routingKey : String}
    {payload : Payload} {remaining : List Nat}
    (h : t.sending publish = some ⟨exchange, routingKey, payload, remaining⟩) :
    ((List.replicate remaining.length (.send publish)).foldl Traffic.step t).bus =
      remaining.foldl (fun b channel => b.send channel (.deliver payload)) t.bus := by
  induction remaining generalizing t with
  | nil => rfl
  | cons channel rest ih =>
    rw [List.length_cons, List.replicate_succ, List.foldl_cons, List.foldl_cons, ih]
    · simp only [Traffic.step, h]
    · simp only [Traffic.step, h, Function.update_self]

/-- A publish between whose steps nothing comes leaves the bus as one that is taken whole. -/
theorem bus_publish_stepwise (t : Traffic) (exchange routingKey : String) (payload : Payload) :
    ((Traffic.Step.beginPublish exchange routingKey payload ::
      List.replicate (t.bus.routes exchange routingKey).length (.send t.publishes)).foldl
        Traffic.step t).bus = (t.step (.publish exchange routingKey payload)).bus := by
  have hsending : (t.step (.beginPublish exchange routingKey payload)).sending t.publishes =
      some ⟨exchange, routingKey, payload,
        (t.bus.routes exchange routingKey).map (·.channel)⟩ := Function.update_self ..
  have hsteps := bus_send_steps hsending
  rw [List.length_map] at hsteps
  rw [List.foldl_cons, hsteps, List.foldl_map]
  rfl

end Watchtower.Live
