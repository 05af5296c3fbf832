-- The text of a predicate. Read as code is read, cut at ` || ` and then at ` && `, it gives back
-- the comparisons of the predicate in just the groups that the evaluation works on.
import Watchtower.Blueprint.Monitor
import Watchtower.Linking.Event
import Watchtower.Rendering.Nested
import Watchtower.Proofs.Predicate.Lowering
import Watchtower.Proofs.Text.Pieces

namespace Watchtower

open Source (Specifier Relation Connective)

/-! ## Cutting a text at a word -/

namespace Text

/-- The pieces of a list between the occurrences of `sep`, of which `skip` characters are still to
be passed over. -/
def cutFrom (sep : List Char) : Nat → List Char → List (List Char)
  | _, [] => [[]]
  | skip + 1, _ :: cs => cutFrom sep skip cs
  | 0, c :: cs =>
    if sep.isPrefixOf (c :: cs) then [] :: cutFrom sep (sep.length - 1) cs
    else
      match cutFrom sep 0 cs with
      | [] => [[c]]
      | piece :: pieces => (c :: piece) :: pieces

/-- The pieces of a text between the occurrences of `sep`. -/
def cutAt (sep s : String) : List String :=
  (cutFrom sep.toList 0 s.toList).map String.ofList

/-- A word between two blanks. -/
def spaced (word : List Char) : List Char :=
  ' ' :: word ++ [' ']

/-- Words with a blank between two of them. -/
def phrase : List (List Char) → List Char
  | [] => []
  | [w] => w
  | w :: rest => w ++ ' ' :: phrase rest

theorem phrase_cons {w : List Char} {rest : List (List Char)} (h : rest ≠ []) :
    phrase (w :: rest) = w ++ ' ' :: phrase rest := by
  cases rest with
  | nil => exact absurd rfl h
  | cons => rfl

theorem phrase_append {ws vs : List (List Char)} (hw : ws ≠ []) (hv : vs ≠ []) :
    phrase (ws ++ vs) = phrase ws ++ ' ' :: phrase vs := by
  induction ws with
  | nil => exact absurd rfl hw
  | cons w rest ih =>
    by_cases hrest : rest = []
    · subst hrest
      simp [phrase_cons hv, phrase]
    · rw [List.cons_append, phrase_cons (by simp [hrest]), ih hrest, phrase_cons hrest]
      simp

/-- What follows a word in a text: nothing, or a blank. -/
def Parted (text : List Char) : Prop :=
  text = [] ∨ ∃ rest, text = ' ' :: rest

theorem takeWhile_word {w text : List Char} (hw : ' ' ∉ w) (ht : Parted text) :
    (w ++ text).takeWhile (· != ' ') = w := by
  rw [List.takeWhile_append_of_pos]
  · rcases ht with rfl | ⟨rest, rfl⟩ <;> simp
  · intro c hc
    simp only [bne_iff_ne, ne_eq]
    rintro rfl
    exact hw hc

/-- A word between blanks occurs only where the next word of the text is this word. -/
theorem eq_of_spaced_before {sep w text : List Char} (hsep : ' ' ∉ sep) (hw : ' ' ∉ w)
    (ht : Parted text) (h : (spaced sep).isPrefixOf (' ' :: (w ++ text)) = true) : w = sep := by
  rw [List.isPrefixOf_iff_prefix] at h
  obtain ⟨rest, hrest⟩ := h
  simp only [spaced, List.cons_append, List.append_assoc, List.cons.injEq, true_and] at hrest
  have hcut := congrArg (List.takeWhile (· != ' ')) hrest
  rw [takeWhile_word hw ht, takeWhile_word hsep (Or.inr ⟨_, rfl⟩)] at hcut
  exact hcut.symm

/-- Characters that begin no occurrence go to the first piece. -/
theorem cutFrom_cons {sep : List Char} {c : Char} {cs piece : List Char} {pieces : List (List Char)}
    (hc : sep.isPrefixOf (c :: cs) = false) (h : cutFrom sep 0 cs = piece :: pieces) :
    cutFrom sep 0 (c :: cs) = (c :: piece) :: pieces := by
  rw [cutFrom, hc, h]
  rfl

theorem cutFrom_word {sep w text piece : List Char} {pieces : List (List Char)} (hw : ' ' ∉ w)
    (h : cutFrom (spaced sep) 0 text = piece :: pieces) :
    cutFrom (spaced sep) 0 (w ++ text) = (w ++ piece) :: pieces := by
  induction w with
  | nil => exact h
  | cons c w ih =>
    simp only [List.mem_cons, not_or] at hw
    refine cutFrom_cons ?_ (ih hw.2)
    simp [spaced, List.isPrefixOf, hw.1]

theorem cutFrom_drop (sep text rest : List Char) :
    cutFrom sep text.length (text ++ rest) = cutFrom sep 0 rest := by
  induction text with
  | nil => rfl
  | cons c cs ih => exact ih

/-- An occurrence ends a piece. -/
theorem cutFrom_spaced (sep rest : List Char) :
    cutFrom (spaced sep) 0 (spaced sep ++ rest) = [] :: cutFrom (spaced sep) 0 rest := by
  have hpre : (spaced sep).isPrefixOf (spaced sep ++ rest) = true := by simp
  have hdrop := cutFrom_drop (spaced sep) (sep ++ [' ']) rest
  rw [show spaced sep ++ rest = ' ' :: (sep ++ [' '] ++ rest) by simp [spaced]] at hpre ⊢
  rw [cutFrom, hpre]
  simpa [spaced] using hdrop

/-- A phrase without the word `sep` goes to the first piece as a whole. -/
theorem cutFrom_phrase {sep : List Char} {ws : List (List Char)} {text piece : List Char}
    {pieces : List (List Char)} (hsep : ' ' ∉ sep) (hws : ∀ w ∈ ws, ' ' ∉ w ∧ w ≠ sep)
    (ht : Parted text) (h : cutFrom (spaced sep) 0 text = piece :: pieces) :
    cutFrom (spaced sep) 0 (phrase ws ++ text) = (phrase ws ++ piece) :: pieces := by
  induction ws with
  | nil => exact h
  | cons w rest ih =>
    have hw := hws w (List.mem_cons_self ..)
    have hrest := fun v hv => hws v (List.mem_cons_of_mem _ hv)
    cases rest with
    | nil => exact cutFrom_word hw.1 h
    | cons v rest =>
      have hv := hrest v (List.mem_cons_self ..)
      have hparted : ∀ tail, Parted tail →
          ∃ tail', Parted tail' ∧ phrase (v :: rest) ++ tail = v ++ tail' := by
        intro tail htail
        cases rest with
        | nil => exact ⟨tail, htail, rfl⟩
        | cons u rest =>
          exact ⟨' ' :: (phrase (u :: rest) ++ tail), Or.inr ⟨_, rfl⟩, by simp [phrase]⟩
      rw [phrase_cons (List.cons_ne_nil v rest), List.append_assoc, List.cons_append,
        List.append_assoc, List.cons_append]
      refine cutFrom_word hw.1 (cutFrom_cons ?_ (ih hrest))
      rw [Bool.eq_false_iff]
      intro hpre
      obtain ⟨tail', htail', heq⟩ := hparted text ht
      rw [heq] at hpre
      exact hv.2 (eq_of_spaced_before hsep hv.1 htail' hpre)

/-- Phrases without the word `sep`, joined by it, are the pieces of the whole. -/
theorem cutFrom_joined {α : Type} {sep : List Char} (hsep : ' ' ∉ sep)
    (words : α → List (List Char)) (first : α) (others : List α)
    (h : ∀ a ∈ first :: others, ∀ w ∈ words a, ' ' ∉ w ∧ w ≠ sep) :
    cutFrom (spaced sep) 0
        (phrase (words first) ++ (others.map fun a => spaced sep ++ phrase (words a)).flatten) =
      (first :: others).map fun a => phrase (words a) := by
  induction others generalizing first with
  | nil =>
    have hnil : cutFrom (spaced sep) 0 [] = [] :: [] := rfl
    have := cutFrom_phrase hsep (h first (List.mem_cons_self ..)) (Or.inl rfl) hnil
    simpa using this
  | cons next others ih =>
    have hnext := ih next fun ws hws => h ws (List.mem_cons_of_mem _ hws)
    have hcut := cutFrom_spaced sep
      (phrase (words next) ++ (others.map fun a => spaced sep ++ phrase (words a)).flatten)
    rw [hnext] at hcut
    have := cutFrom_phrase hsep (h first (List.mem_cons_self ..)) (Or.inr ⟨_, rfl⟩) hcut
    simpa [spaced] using this

theorem splitList_phrase {ws : List (List Char)} (hne : ws ≠ []) (h : ∀ w ∈ ws, ' ' ∉ w) :
    splitList (· == ' ') (phrase ws) = ws := by
  induction ws with
  | nil => exact absurd rfl hne
  | cons w rest ih =>
    have hw := beq_of_not_mem (h w (List.mem_cons_self ..))
    cases rest with
    | nil =>
      have hword : splitList (· == ' ') (w ++ []) = _ := splitList_append hw rfl
      simpa [phrase] using hword
    | cons v rest =>
      have hrest := ih (List.cons_ne_nil v rest) fun u hu => h u (List.mem_cons_of_mem _ hu)
      have htext : splitList (· == ' ') (' ' :: phrase (v :: rest)) = [] :: v :: rest := by
        simp [splitList, hrest]
      rw [phrase_cons (List.cons_ne_nil v rest)]
      simpa using splitList_append hw htext

/-- What precedes `tail` in `s`, if `s` ends with it. -/
def before? (tail s : String) : Option String :=
  if endsWith s tail then some (String.ofList (s.toList.take (s.length - tail.length))) else none

@[simp] theorem before?_append (s tail : String) : before? tail (s ++ tail) = some s := by
  have htake : (s.toList ++ tail.toList).take s.length = s.toList :=
    List.take_left' String.length_toList
  simp [before?, endsWith, htake]

end Text

/-! ## The text of a comparison -/

/-- The relation of an operator. -/
def Source.Relation.ofSymbol? (symbol : String) : Option Relation :=
  [Relation.above, .below, .equal].find? (·.symbol == symbol)

@[simp] theorem Source.Relation.ofSymbol?_symbol (r : Relation) : ofSymbol? r.symbol = some r := by
  cases r <;> rfl

namespace Comparison

/-- The words of the text of a comparison. -/
def words (event : String) (c : Comparison) : List String :=
  if c.percentage then
    ["change_delta(&" ++ event ++ ".previous,", "&" ++ event ++ ".current)?", c.relation.symbol,
      "percentage_of(&" ++ event ++ ".previous,", "self." ++ c.threshold ++ ")?"]
  else ["numeric(&" ++ event ++ ".current)?", c.relation.symbol, "self." ++ c.threshold]

/-- The comparison that words write. -/
def ofWords? (event : String) : List String → Option Comparison
  | [value, symbol, bound] =>
    if value = "numeric(&" ++ event ++ ".current)?" then do
      return ⟨← Relation.ofSymbol? symbol, ← Text.after? "self." bound, false⟩
    else none
  | [previous, current, symbol, base, bound] =>
    if previous = "change_delta(&" ++ event ++ ".previous," ∧ current = "&" ++ event ++ ".current)?" ∧
        base = "percentage_of(&" ++ event ++ ".previous," then do
      let bound ← Text.after? "self." bound
      return ⟨← Relation.ofSymbol? symbol, ← Text.before? ")?" bound, true⟩
    else none
  | _ => none

/-- The comparison that a text writes over the event that `event` names. -/
def ofText? (event text : String) : Option Comparison :=
  ofWords? event (Text.split (· == ' ') text)

theorem ofWords?_words (event : String) (c : Comparison) : ofWords? event (c.words event) = some c := by
  obtain ⟨relation, threshold, _ | _⟩ := c
  · simp [words, ofWords?]
  · simp [words, ofWords?, String.append_assoc]

theorem render_eq_phrase (event : String) (c : Comparison) :
    (c.render event).toList = Text.phrase ((c.words event).map String.toList) := by
  obtain ⟨relation, threshold, _ | _⟩ := c
  · simp [render, words, Text.phrase]
  · simp [render, words, Text.phrase]

/-- A name without blanks is part of words without blanks, none of which is a connective. -/
theorem words_plain {event : String} {c : Comparison} (hevent : ' ' ∉ event.toList)
    (hthreshold : ' ' ∉ c.threshold.toList) :
    ∀ w ∈ c.words event, ' ' ∉ w.toList ∧ ∀ k : Connective, w ≠ k.symbol := by
  have hlong : ∀ head name tail : String, 2 < head.toList.length + tail.toList.length →
      ∀ k : Connective, head ++ name ++ tail ≠ k.symbol := by
    intro head name tail hlt k hk
    have hlen := congrArg (fun s => s.toList.length) hk
    have hshort : k.symbol.toList.length = 2 := by cases k <;> rfl
    simp only [String.toList_append, List.length_append] at hlen
    omega
  have hsymbol : ' ' ∉ c.relation.symbol.toList ∧
      ∀ k : Connective, c.relation.symbol ≠ k.symbol := by
    cases c.relation <;> simp [Relation.symbol, Connective.symbol] <;> rintro (_ | _) <;> decide
  intro w hw
  unfold words at hw
  split at hw
  · simp only [List.mem_cons, List.not_mem_nil, or_false] at hw
    rcases hw with rfl | rfl | rfl | rfl | rfl
    · exact ⟨by simp [hevent], hlong _ _ _ (by decide)⟩
    · exact ⟨by simp [hevent], hlong _ _ _ (by decide)⟩
    · exact hsymbol
    · exact ⟨by simp [hevent], hlong _ _ _ (by decide)⟩
    · exact ⟨by simp [hthreshold], hlong _ _ _ (by decide)⟩
  · simp only [List.mem_cons, List.not_mem_nil, or_false] at hw
    rcases hw with rfl | rfl | rfl
    · exact ⟨by simp [hevent], hlong _ _ _ (by decide)⟩
    · exact hsymbol
    · exact ⟨by simp [hthreshold], by simpa using hlong "self." c.threshold "" (by decide)⟩

theorem words_ne_nil (event : String) (c : Comparison) : c.words event ≠ [] := by
  unfold words
  split <;> simp

/-- A text of words without blanks is read back. -/
theorem ofText?_render {event : String} {c : Comparison} (hevent : ' ' ∉ event.toList)
    (hthreshold : ' ' ∉ c.threshold.toList) : ofText? event (c.render event) = some c := by
  have hsplit : Text.splitList (· == ' ') (c.render event).toList =
      (c.words event).map String.toList := by
    rw [render_eq_phrase]
    refine Text.splitList_phrase (by simp [words_ne_nil]) ?_
    intro w hw
    obtain ⟨v, hv, rfl⟩ := List.mem_map.mp hw
    exact (words_plain hevent hthreshold v hv).1
  rw [ofText?, Text.split, hsplit, List.map_map]
  simpa [Function.comp_def] using ofWords?_words event c

end Comparison

/-! ## The text of a predicate -/

/-- The words of a group of comparisons, with `&&` between two of them. -/
def groupWords (event : String) : List Comparison → List String
  | [] => []
  | c :: rest => c.words event ++ rest.flatMap fun c => Connective.and.symbol :: c.words event

/-- The text of the terms behind the first one. -/
def restText (event : String) (rest : List (Connective × Comparison)) : List Char :=
  rest.flatMap fun link => Text.spaced link.1.symbol.toList ++ (link.2.render event).toList

theorem Predicate.render_eq_chain (event : String) (p : Predicate) :
    (p.render event).toList =
      (p.chain.first.render event).toList ++ restText event p.chain.rest := by
  induction p with
  | compare c => simp [render, chain, restText]
  | joined connective left right ihl ihr =>
    simp [render, chain, Chain.join, restText, ihl, ihr, Text.spaced]

/-- The text of a group: that of its words. -/
def groupText (event : String) (group : List Comparison) : List Char :=
  Text.phrase ((groupWords event group).map String.toList)

theorem groupText_cons (event : String) (c : Comparison) (rest : List Comparison) :
    groupText event (c :: rest) = (c.render event).toList ++ (rest.map fun c' =>
      Text.spaced Connective.and.symbol.toList ++ (c'.render event).toList).flatten := by
  induction rest generalizing c with
  | nil => simp [groupText, groupWords, Comparison.render_eq_phrase]
  | cons d rest ih =>
    have hwords : groupWords event (c :: d :: rest) =
        c.words event ++ Connective.and.symbol :: groupWords event (d :: rest) := by
      simp [groupWords]
    have hd : groupWords event (d :: rest) ≠ [] := by
      simp [groupWords, Comparison.words_ne_nil]
    have hc := c.words_ne_nil event
    rw [List.map_cons, List.flatten_cons, List.append_assoc, ← ih, groupText, hwords,
      List.map_append, Text.phrase_append (by simpa using hc) (by simp), List.map_cons,
      Text.phrase_cons (by simpa using hd), ← Comparison.render_eq_phrase]
    simp [groupText, Text.spaced]

theorem groupText_snoc (event : String) {group : List Comparison} (c : Comparison)
    (h : group ≠ []) :
    groupText event (group ++ [c]) =
      groupText event group ++ Text.spaced Connective.and.symbol.toList ++
        (c.render event).toList := by
  cases group with
  | nil => exact absurd rfl h
  | cons b rest => simp [groupText_cons]

/-- The text from an open group on is that of the groups, with `||` between two of them. -/
theorem groupsFrom_text (event : String) {group : List Comparison} (hne : group ≠ [])
    (rest : List (Connective × Comparison)) :
    ∃ g others, Chain.groupsFrom group rest = g :: others ∧ (∀ g' ∈ g :: others, g' ≠ []) ∧
      groupText event group ++ restText event rest =
        groupText event g ++ (others.map fun g' =>
          Text.spaced Connective.or.symbol.toList ++ groupText event g').flatten := by
  induction rest generalizing group with
  | nil => exact ⟨group, [], rfl, by simpa using hne, by simp [restText]⟩
  | cons link rest ih =>
    obtain ⟨connective, c⟩ := link
    cases connective with
    | and =>
      obtain ⟨g, others, hgroups, hall, htext⟩ := ih (List.append_ne_nil_of_right_ne_nil group (List.cons_ne_nil c []))
      refine ⟨g, others, hgroups, hall, ?_⟩
      rw [← htext, groupText_snoc event c hne]
      simp [restText]
    | or =>
      obtain ⟨g, others, hgroups, hall, htext⟩ := ih (List.cons_ne_nil c [])
      refine ⟨group, g :: others, by rw [Chain.groupsFrom, hgroups], ?_, ?_⟩
      · intro g' hg'
        rcases List.mem_cons.mp hg' with rfl | hg'
        · exact hne
        · exact hall g' hg'
      · simp only [groupText_cons event c, List.map_nil, List.flatten_nil, List.append_nil] at htext
        simp only [List.map_cons, List.flatten_cons, List.append_assoc]
        rw [← htext]
        simp [restText]

/-! ## Reading a text back -/

/-- The groups of comparisons that a text writes over the event that `event` names: the text is cut
at ` || `, each piece at ` && `, and what remains are comparisons. -/
def readGroups? (event text : String) : Option (List (List Comparison)) :=
  (Text.cutAt " || " text).mapM fun group =>
    (Text.cutAt " && " group).mapM (Comparison.ofText? event)

/-- What a text decides of a change, read as code is read. -/
def decideText? (event text : String) (thresholds : Thresholds) (previous current : Json) :
    Option (Except Fault Bool) :=
  (readGroups? event text).map fun groups =>
    settleGroups (groups.map (·.map (·.test thresholds previous current)))

theorem mapM_map_eq_some {α β : Type} {f : α → β} {g : β → Option α} {l : List α}
    (h : ∀ a ∈ l, g (f a) = some a) : (l.map f).mapM g = some l := by
  induction l with
  | nil => rfl
  | cons a rest ih =>
    rw [List.map_cons, List.mapM_cons, h a (List.mem_cons_self ..),
      ih fun b hb => h b (List.mem_cons_of_mem _ hb)]
    rfl

section

variable {event : String} (hevent : ' ' ∉ event.toList)

include hevent

theorem cutAt_groupText {group : List Comparison} (hne : group ≠ [])
    (h : ∀ c ∈ group, ' ' ∉ c.threshold.toList) :
    Text.cutAt " && " (String.ofList (groupText event group)) = group.map (·.render event) := by
  cases group with
  | nil => exact absurd rfl hne
  | cons c rest =>
    have hcut := Text.cutFrom_joined (by decide : ' ' ∉ Connective.and.symbol.toList)
      (fun c' : Comparison => (c'.words event).map String.toList) c rest (by
        intro c' hc' w hw
        obtain ⟨v, hv, rfl⟩ := List.mem_map.mp hw
        have hplain := Comparison.words_plain hevent (h c' hc') v hv
        exact ⟨hplain.1, fun heq => hplain.2 .and (String.toList_inj.mp heq)⟩)
    simp only [← Comparison.render_eq_phrase] at hcut
    rw [Text.cutAt, groupText_cons]
    change (Text.cutFrom (Text.spaced Connective.and.symbol.toList) 0 _).map String.ofList = _
    rw [String.toList_ofList, hcut]
    simp

theorem groupWords_plain {group : List Comparison} (h : ∀ c ∈ group, ' ' ∉ c.threshold.toList) :
    ∀ w ∈ groupWords event group, ' ' ∉ w.toList ∧ w ≠ Connective.or.symbol := by
  cases group with
  | nil => simp [groupWords]
  | cons c rest =>
    intro w hw
    simp only [groupWords, List.mem_append, List.mem_flatMap, List.mem_cons] at hw
    rcases hw with hw | ⟨c', hc', rfl | hw⟩
    · have := Comparison.words_plain hevent (h c (List.mem_cons_self ..)) w hw
      exact ⟨this.1, this.2 .or⟩
    · decide
    · have := Comparison.words_plain hevent (h c' (List.mem_cons_of_mem _ hc')) w hw
      exact ⟨this.1, this.2 .or⟩

theorem cutAt_render (p : Predicate) (h : ∀ c ∈ p.chain.terms, ' ' ∉ c.threshold.toList) :
    (Text.cutAt " || " (p.render event) =
      p.groups.map fun group => String.ofList (groupText event group)) ∧
      ∀ group ∈ p.groups, group ≠ [] := by
  obtain ⟨g, others, hgroups, hne, htext⟩ :=
    groupsFrom_text event (List.cons_ne_nil p.chain.first []) p.chain.rest
  have hall : p.groups = g :: others := by rw [Predicate.groups_eq_chain, Chain.groups, hgroups]
  have hterms : ∀ group ∈ g :: others, ∀ c ∈ group, ' ' ∉ c.threshold.toList := by
    intro group hgroup c hc
    rw [← hgroups] at hgroup
    exact h c (Chain.mem_terms_of_mem_groups hgroup hc)
  have hcut := Text.cutFrom_joined (by decide : ' ' ∉ Connective.or.symbol.toList)
    (fun group => (groupWords event group).map String.toList) g others (by
      intro group hgroup w hw
      obtain ⟨v, hv, rfl⟩ := List.mem_map.mp hw
      have hplain := groupWords_plain hevent (hterms group hgroup) v hv
      exact ⟨hplain.1, fun heq => hplain.2 (String.toList_inj.mp heq)⟩)
  simp only [groupText_cons event p.chain.first, List.map_nil, List.flatten_nil,
    List.append_nil] at htext
  refine ⟨?_, hall ▸ hne⟩
  rw [Text.cutAt, Predicate.render_eq_chain, htext, hall]
  change (Text.cutFrom (Text.spaced Connective.or.symbol.toList) 0 _).map String.ofList = _
  simp only [groupText]
  rw [hcut]
  simp

theorem readGroups?_render (p : Predicate)
    (h : ∀ c ∈ p.chain.terms, ' ' ∉ c.threshold.toList) :
    readGroups? event (p.render event) = some p.groups := by
  obtain ⟨hcut, hne⟩ := cutAt_render hevent p h
  rw [readGroups?, hcut]
  refine mapM_map_eq_some fun group hgroup => ?_
  have hplain : ∀ c ∈ group, ' ' ∉ c.threshold.toList := by
    intro c hc
    rw [Predicate.groups_eq_chain] at hgroup
    exact h c (Chain.mem_terms_of_mem_groups hgroup hc)
  rw [cutAt_groupText hevent (hne group hgroup) hplain]
  exact mapM_map_eq_some fun c hc => Comparison.ofText?_render hevent (hplain c hc)

end

/-! ## The law -/

theorem numbered_plain (n : Nat) : ' ' ∉ (NameSupply.numbered "threshold" n).toList := by
  have hdigits : ' ' ∉ (toString n).toList := by
    intro h
    have := Nat.isDigit_of_mem_toDigits (by omega) (by omega) (Nat.toList_repr ▸ h)
    simp at this
  simpa [NameSupply.numbered] using hdigits

/-- The comparisons of a lowered specifier name numbered thresholds. -/
theorem ofSpecifier_thresholds {names names' : NameSupply} {node : Specifier}
    {compiled : CompiledSpecifier}
    (h : CompiledSpecifier.ofSpecifier names node = .ok (compiled, names')) :
    ∀ c ∈ compiled.predicate.chain.terms, ∃ n, c.threshold = NameSupply.numbered "threshold" n := by
  induction node generalizing names names' compiled with
  | leaf relation value percentage =>
    obtain ⟨d, _, rfl, rfl⟩ := ofSpecifier_leaf h
    intro c hc
    simp only [Predicate.chain, Chain.terms, List.map_nil, List.mem_singleton] at hc
    exact ⟨names.issued "threshold", by rw [hc]; rfl⟩
  | node connective left right ihl ihr =>
    obtain ⟨l, between, r, hl, hr, rfl⟩ := ofSpecifier_node h
    intro c hc
    rw [Predicate.chain, Chain.terms_join, List.mem_append] at hc
    rcases hc with hc | hc
    · exact ihl hl c hc
    · exact ihr hr c hc

theorem decideText?_render {event : String} {p : Predicate} {text : String}
    (h : readGroups? event text = some p.groups) (thresholds : Thresholds)
    (previous current : Json) :
    decideText? event text thresholds previous current =
      some (p.evaluate thresholds previous current) := by
  rw [decideText?, h, Option.map_some, Predicate.evaluate, someHolds_eq_settleGroups]

/-- The text of a lowered specifier over an event whose name has no blank in it reads back as the
groups that the evaluation works on, and decides every change as the evaluation does. So do the
text in the code of the predicate and the filter that is linked from it. -/
theorem predicate_text_reads_as_its_groups (names names' : NameSupply) (node : Specifier)
    (compiled : CompiledSpecifier) (event : String)
    (h : CompiledSpecifier.ofSpecifier names node = .ok (compiled, names'))
    (hevent : ∀ c ∈ event.toList, Text.isBlank c = false) :
    readGroups? event (compiled.predicate.render event) = some compiled.predicate.groups ∧
      (∀ thresholds previous current,
        decideText? event (compiled.predicate.render event) thresholds previous current =
          some (compiled.predicate.evaluate thresholds previous current)) ∧
      ∀ scope name w, ∃ lines text filter,
        Rendering.testLines (.ofPredicate scope name compiled) = .ok lines ∧
          Rendering.line 2 ("Ok(" ++ text ++ ")") ∈ lines ∧
          Linking.linkFilter (.ofPredicate scope name compiled) w = (.ok filter, w) ∧
          ∀ previous current, decideText? predicateEvent text filter.thresholds previous current =
            some (filter.predicate.evaluate filter.thresholds previous current) := by
  have hplain : ∀ c ∈ compiled.predicate.chain.terms, ' ' ∉ c.threshold.toList := by
    intro c hc
    obtain ⟨n, hn⟩ := ofSpecifier_thresholds h c hc
    exact hn ▸ numbered_plain n
  have hblank : ' ' ∉ event.toList := fun hmem => absurd (hevent ' ' hmem) (by decide)
  have hread := readGroups?_render hblank compiled.predicate hplain
  refine ⟨hread, decideText?_render hread, fun scope name w => ?_⟩
  have hcode := readGroups?_render (by decide : ' ' ∉ predicateEvent.toList) compiled.predicate hplain
  exact ⟨_, compiled.predicate.render predicateEvent,
    ⟨compiled.predicate, thresholdsOf compiled.fields⟩, rfl, by simp [predicateEvent], rfl,
    decideText?_render hcode _⟩

/-- The name of the event may even look like connectives. -/
theorem nested_predicate_text_reads_as_its_groups :
    ∃ compiled names', CompiledSpecifier.ofSpecifier {} nestedSpecifier = .ok (compiled, names') ∧
      (∀ c ∈ "a&&b||c".toList, Text.isBlank c = false) ∧
      readGroups? "a&&b||c" (compiled.predicate.render "a&&b||c") =
        some compiled.predicate.groups := by
  have hunblank : ∀ c ∈ "a&&b||c".toList, Text.isBlank c = false := Text.unblank_iff.mpr (by decide)
  exact ⟨_, _, rfl, hunblank,
    (predicate_text_reads_as_its_groups {} _ nestedSpecifier _ "a&&b||c" rfl hunblank).1⟩

end Watchtower
