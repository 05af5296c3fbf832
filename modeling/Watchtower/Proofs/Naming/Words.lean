-- The words of names. The spelling of a type joins the words and tells them apart by capitals, so
-- a member spelled after the type is spelled after the name where every later word begins with a
-- letter, and is shorter where one does not.
import Watchtower.Proofs.Naming
import Watchtower.Proofs.Text.Pieces

namespace Watchtower.Naming

open Text (splitList isUpper upperChar lowerChar)

/-! ## Initials -/

/-- The words of a name stand between its joints. -/
def words (name : String) : List (List Char) :=
  splitList isJoint name.toList

/-- The character has a capital, which a spelling of members takes back to the character. -/
def isCased (c : Char) : Bool :=
  match upperChar c with
  | [capital] => isUpper capital && lowerChar capital == snakeList true [c]
  | _ => false

/-- The character is its own capital, and no capital to a spelling of members. -/
def isUncased (c : Char) : Bool :=
  upperChar c == [c] && !isUpper c && !isJoint c

/-- The word begins with a character that has a simple capital, or none. -/
def BeginsPlainly (word : List Char) : Prop :=
  ∀ c ∈ word.head?, isCased c ∨ isUncased c

/-- The word begins with a character that has a capital. -/
def BeginsCased (word : List Char) : Prop :=
  ∃ c ∈ word.head?, isCased c

instance : (word : List Char) → Decidable (BeginsPlainly word)
  | [] => isTrue (by simp [BeginsPlainly])
  | c :: _ => decidable_of_iff (isCased c ∨ isUncased c) (by simp [BeginsPlainly])

instance : (word : List Char) → Decidable (BeginsCased word)
  | [] => isFalse (by simp [BeginsCased])
  | c :: _ => decidable_of_iff (isCased c) (by simp [BeginsCased])

/-- In ASCII the letters have capitals, and all else between joints has none. -/
theorem isCased_of_ascii {c : Char} (hascii : c.toNat < 128) (hjoint : isJoint c = false) :
    isCased c = c.isAlpha ∧ isUncased c = !c.isAlpha := by
  have hall : ∀ n < 128, isJoint (Char.ofNat n) = false →
      isCased (Char.ofNat n) = (Char.ofNat n).isAlpha ∧
        isUncased (Char.ofNat n) = !(Char.ofNat n).isAlpha := by
    decide +kernel
  have hc := hall c.toNat hascii
  rw [Char.ofNat_toNat] at hc
  exact hc hjoint

theorem isJoint_iff {c : Char} : isJoint c ↔ c = '_' ∨ c = '-' ∨ c = '.' := by
  simp [isJoint, or_assoc]

theorem isUpper_of_isJoint {c : Char} (h : isJoint c) : isUpper c = false := by
  rcases isJoint_iff.mp h with rfl | rfl | rfl
  · decide
  · decide
  · decide

/-- A joint is no beginning of a word. -/
theorem isJoint_of_plain {c : Char} (h : isCased c ∨ isUncased c) : isJoint c = false := by
  rw [Bool.eq_false_iff]
  intro hjoint
  rcases isJoint_iff.mp hjoint with rfl | rfl | rfl
  · exact absurd h (by decide)
  · exact absurd h (by decide)
  · exact absurd h (by decide)

/-! ## Spellings -/

/-- A spelling goes word by word, with an underscore for each joint. -/
theorem snakeList_split {fresh : Bool} {cs word : List Char} {rest : List (List Char)}
    (h : splitList isJoint cs = word :: rest) :
    snakeList fresh cs =
      snakeList fresh word ++ rest.flatMap fun later => '_' :: snakeList true later := by
  induction cs generalizing fresh word rest with
  | nil =>
    cases h
    rfl
  | cons c cs ih =>
    rw [splitList] at h
    cases hsplit : splitList isJoint cs with
    | nil => exact absurd hsplit (Text.splitList_ne_nil _ _)
    | cons next others =>
      rw [hsplit] at h
      split at h
      · rename_i hjoint
        cases h
        simp [snakeList, isUpper_of_isJoint hjoint, hjoint, ih hsplit]
      · rename_i hjoint
        cases h
        simp only [snakeList, hjoint, ih hsplit]
        split
        · simp
        · simp

/-- Without joints a spelling begins anew only at its beginning. -/
theorem snakeList_append_of_no_joint {fresh : Bool} {first : List Char}
    (h : ∀ c ∈ first, isJoint c = false) (rest : List Char) :
    snakeList fresh (first ++ rest) =
      snakeList fresh first ++ snakeList (fresh && first.isEmpty) rest := by
  induction first generalizing fresh with
  | nil => simp [snakeList]
  | cons c first ih =>
    have htail := @ih false fun d hd => h d (List.mem_cons_of_mem _ hd)
    simp only [Bool.false_and] at htail
    simp only [List.cons_append, snakeList, h c List.mem_cons_self, htail]
    split
    · simp
    · simp

/-- A capital is spelled like its character, behind an underscore within a name. -/
theorem capitalize_of_isCased {c : Char} (h : isCased c) (tail : List Char) :
    ∃ capital, capitalize (c :: tail) = capital :: tail ∧ isJoint capital = false ∧
      ∀ fresh, snakeList fresh (capital :: tail) =
        (if fresh then [] else ['_']) ++ snakeList true (c :: tail) := by
  have hjoint := isJoint_of_plain (.inl h)
  unfold isCased at h
  split at h
  · rename_i capital hcapital
    simp only [Bool.and_eq_true, beq_iff_eq] at h
    obtain ⟨hupper, hlower⟩ := h
    refine ⟨capital, by simp [capitalize, hcapital], ?_, fun fresh => ?_⟩
    · rw [Bool.eq_false_iff]
      intro hcapital
      simp [isUpper_of_isJoint hcapital] at hupper
    · have hc : snakeList true (c :: tail) = snakeList true [c] ++ snakeList false tail :=
        snakeList_append_of_no_joint (List.forall_mem_singleton.mpr hjoint) tail
      simp only [snakeList, hupper, if_true, hlower] at hc ⊢
      rw [hc, List.append_assoc]
  · cases h

/-- Where a word begins without capitals, its spelling has no underscore before it. -/
theorem capitalize_of_isUncased {c : Char} (h : isUncased c) (tail : List Char) :
    capitalize (c :: tail) = c :: tail ∧
      ∀ fresh, snakeList fresh (c :: tail) = snakeList true (c :: tail) := by
  simp only [isUncased, Bool.and_eq_true, beq_iff_eq, Bool.not_eq_true'] at h
  obtain ⟨⟨hself, hupper⟩, hjoint⟩ := h
  refine ⟨by simp [capitalize, hself], fun fresh => ?_⟩
  simp [snakeList, hupper, hjoint]

section Word

variable {word : List Char}

/-- A word with a capital has no joints, either. -/
theorem no_joint_capitalize (hword : ∀ c ∈ word, isJoint c = false) (hplain : BeginsPlainly word) :
    ∀ c ∈ capitalize word, isJoint c = false := by
  cases word with
  | nil => exact List.forall_mem_nil _
  | cons c tail =>
    have htail := fun d hd => hword d (List.mem_cons_of_mem c hd)
    rcases hplain c rfl with hcased | huncased
    · obtain ⟨capital, heq, hcapital, -⟩ := capitalize_of_isCased hcased tail
      rw [heq]
      exact List.forall_mem_cons.mpr ⟨hcapital, htail⟩
    · rw [(capitalize_of_isUncased huncased tail).1]
      exact hword

theorem isEmpty_capitalize (hplain : BeginsPlainly word) :
    (capitalize word).isEmpty = word.isEmpty := by
  cases word with
  | nil => rfl
  | cons c tail =>
    rcases hplain c rfl with hcased | huncased
    · obtain ⟨capital, heq, -⟩ := capitalize_of_isCased hcased tail
      rw [heq]
      rfl
    · rw [(capitalize_of_isUncased huncased tail).1]

/-- A capital does not change the spelling of the first word. -/
theorem snakeList_capitalize_fresh (hplain : BeginsPlainly word) :
    snakeList true (capitalize word) = snakeList true word := by
  cases word with
  | nil => rfl
  | cons c tail =>
    rcases hplain c rfl with hcased | huncased
    · obtain ⟨capital, heq, -, hspell⟩ := capitalize_of_isCased hcased tail
      rw [heq, hspell]
      rfl
    · rw [(capitalize_of_isUncased huncased tail).1]

/-- Within a name a capital stands for the underscore before a word. -/
theorem snakeList_capitalize_of_beginsCased (hcased : BeginsCased word) :
    snakeList false (capitalize word) = '_' :: snakeList true word := by
  obtain ⟨c, hc, hcased⟩ := hcased
  obtain ⟨tail, rfl⟩ : ∃ tail, word = c :: tail := List.head?_eq_some_iff.mp hc
  obtain ⟨capital, heq, -, hspell⟩ := capitalize_of_isCased hcased tail
  rw [heq, hspell]
  rfl

/-- Without a capital the underscore before a word is lost. -/
theorem snakeList_capitalize_of_not_beginsCased (hplain : BeginsPlainly word)
    (hcased : ¬ BeginsCased word) : snakeList false (capitalize word) = snakeList true word := by
  cases word with
  | nil => rfl
  | cons c tail =>
    have huncased := (hplain c rfl).resolve_left fun h => hcased ⟨c, rfl, h⟩
    obtain ⟨heq, hspell⟩ := capitalize_of_isUncased huncased tail
    rw [heq, hspell]

end Word

/-! ## Names -/

/-- The words begin plainly and hold no joints. -/
def ArePlain (words : List (List Char)) : Prop :=
  ∀ word ∈ words, (∀ c ∈ word, isJoint c = false) ∧ BeginsPlainly word

section Words

variable {word : List Char} {rest : List (List Char)}

theorem snakeList_capitalize_append (h : ArePlain (word :: rest)) (fresh : Bool) :
    snakeList fresh ((word :: rest).flatMap capitalize) = snakeList fresh (capitalize word) ++
      snakeList (fresh && word.isEmpty) (rest.flatMap capitalize) := by
  obtain ⟨hjoint, hplain⟩ := h word List.mem_cons_self
  rw [List.flatMap_cons, snakeList_append_of_no_joint (no_joint_capitalize hjoint hplain),
    isEmpty_capitalize hplain]

/-- Words after the first are not longer where capitals stand for underscores. -/
theorem length_snakeList_capitalize_le (h : ArePlain rest) (fresh : Bool) :
    (snakeList fresh (rest.flatMap capitalize)).length ≤
      (rest.flatMap fun later => '_' :: snakeList true later).length := by
  induction rest generalizing fresh with
  | nil => simp [snakeList]
  | cons word rest ih =>
    have hrest := ih (fun v hv => h v (List.mem_cons_of_mem _ hv)) (fresh && word.isEmpty)
    have hword : (snakeList fresh (capitalize word)).length ≤ (snakeList true word).length + 1 := by
      have hplain := (h word List.mem_cons_self).2
      cases fresh with
      | true => simp [snakeList_capitalize_fresh hplain]
      | false =>
        by_cases hcased : BeginsCased word
        · simp [snakeList_capitalize_of_beginsCased hcased]
        · simp [snakeList_capitalize_of_not_beginsCased hplain hcased]
    rw [snakeList_capitalize_append h, List.flatMap_cons]
    simp only [List.length_append, List.length_cons]
    omega

/-- At the beginning of a name an underscore is lost. -/
theorem length_snakeList_capitalize_lt (h : ArePlain (word :: rest)) :
    (snakeList true ((word :: rest).flatMap capitalize)).length <
      ((word :: rest).flatMap fun later => '_' :: snakeList true later).length := by
  have hrest := length_snakeList_capitalize_le
    (fun v hv => h v (List.mem_cons_of_mem _ hv)) (true && word.isEmpty)
  rw [snakeList_capitalize_append h, List.flatMap_cons,
    snakeList_capitalize_fresh (h word List.mem_cons_self).2]
  simp only [List.length_append, List.length_cons]
  omega

/-- Capitals stand for underscores where each word begins with a letter. -/
theorem snakeList_capitalize_iff (h : ArePlain rest) :
    snakeList false (rest.flatMap capitalize) =
        rest.flatMap (fun later => '_' :: snakeList true later) ↔
      ∀ later ∈ rest, BeginsCased later := by
  induction rest with
  | nil => simp [snakeList]
  | cons word rest ih =>
    have hrest : ArePlain rest := fun v hv => h v (List.mem_cons_of_mem _ hv)
    rw [snakeList_capitalize_append h, List.flatMap_cons, List.forall_mem_cons, Bool.false_and]
    by_cases hcased : BeginsCased word
    · rw [snakeList_capitalize_of_beginsCased hcased, List.append_right_inj, ih hrest]
      exact (and_iff_right hcased).symm
    · -- The underscore before the word is lost, and nothing later makes up for it.
      refine iff_of_false (fun heq => ?_) (fun hall => hcased hall.1)
      have hlength := congrArg List.length heq
      have hle := length_snakeList_capitalize_le hrest false
      rw [snakeList_capitalize_of_not_beginsCased (h word List.mem_cons_self).2 hcased] at hlength
      simp only [List.length_append, List.length_cons] at hlength
      omega

end Words

/-- The name begins with a word, and each word behind a joint begins with a letter. -/
def IsJoinedAtLetters (name : String) : Prop :=
  (words name).head? ≠ some [] ∧ ∀ later ∈ (words name).tail, BeginsCased later

instance (name : String) : Decidable (IsJoinedAtLetters name) :=
  inferInstanceAs (Decidable (_ ∧ _))

theorem arePlain_words {name : String} (hplain : ∀ word ∈ words name, BeginsPlainly word) :
    ArePlain (words name) :=
  fun word hword => ⟨Text.splitList_pieces isJoint name.toList word hword, hplain word hword⟩

/-- Only the empty name has nothing but an empty word. -/
theorem eq_empty_of_words {name : String} (h : words name = [[]]) : name = "" := by
  apply String.toList_injective
  cases hname : name.toList with
  | nil => rfl
  | cons c cs =>
    rw [words, hname, splitList] at h
    cases hsplit : splitList isJoint cs with
    | nil => exact absurd hsplit (Text.splitList_ne_nil _ _)
    | cons word rest =>
      rw [hsplit] at h
      split at h
      · cases h
      · cases h

/-- A name whose words begin plainly is spelled as a member after its type as it is on its own
where its joints stand between words and before letters. -/
theorem snake_pascal_iff {name : String} (hplain : ∀ word ∈ words name, BeginsPlainly word) :
    snake (pascal name) = snake name ↔ name = "" ∨ IsJoinedAtLetters name := by
  obtain ⟨word, rest, hwords⟩ := List.exists_cons_of_ne_nil
    (Text.splitList_ne_nil isJoint name.toList)
  have hall : ArePlain (word :: rest) := by
    have hname := arePlain_words hplain
    rwa [words, hwords] at hname
  have hspelled : snake (pascal name) = snake name ↔
      snakeList (true && word.isEmpty) (rest.flatMap capitalize) =
        rest.flatMap fun later => '_' :: snakeList true later := by
    rw [snake, pascal, snake, String.ofList_inj, String.toList_ofList, hwords,
      snakeList_capitalize_append hall, snakeList_split hwords,
      snakeList_capitalize_fresh (hall word List.mem_cons_self).2, List.append_right_inj]
  have hrest : ArePlain rest := fun v hv => hall v (List.mem_cons_of_mem _ hv)
  rw [hspelled, IsJoinedAtLetters, words, hwords]
  cases word with
  | cons c tail =>
    have hne : name ≠ "" := by
      rintro rfl
      cases hwords
    simpa [hne] using snakeList_capitalize_iff hrest
  | nil =>
    cases rest with
    | nil => simp [snakeList, eq_empty_of_words hwords]
    | cons next others =>
      have hne : name ≠ "" := by
        rintro rfl
        cases hwords
      have hlost := length_snakeList_capitalize_lt hrest
      refine iff_of_false (fun heq => ?_) (by simp [hne])
      exact Nat.ne_of_lt hlost (congrArg List.length heq)

/-- Of a name in ASCII this asks for a letter behind each joint, and for a word at the
beginning. -/
theorem snake_pascal_iff_of_ascii {name : String} (hascii : ∀ c ∈ name.toList, c.toNat < 128) :
    snake (pascal name) = snake name ↔ name = "" ∨ (words name).head? ≠ some [] ∧
      ∀ later ∈ (words name).tail, ∃ c ∈ later.head?, c.isAlpha := by
  have hinitial : ∀ word ∈ words name, ∀ c ∈ word.head?,
      isCased c = c.isAlpha ∧ isUncased c = !c.isAlpha := by
    intro word hword c hc
    have hmem : c ∈ word := List.mem_of_mem_head? hc
    exact isCased_of_ascii (hascii c (Text.mem_of_mem_splitList hword hmem))
      (Text.splitList_pieces isJoint name.toList word hword c hmem)
  have hplain : ∀ word ∈ words name, BeginsPlainly word := by
    intro word hword c hc
    obtain ⟨hcased, huncased⟩ := hinitial word hword c hc
    rw [hcased, huncased]
    cases c.isAlpha with
    | true => exact .inl rfl
    | false => exact .inr rfl
  have hletters : ∀ later ∈ (words name).tail,
      (BeginsCased later ↔ ∃ c ∈ later.head?, c.isAlpha) := by
    intro later hlater
    unfold BeginsCased
    constructor
    · rintro ⟨c, hc, hcased⟩
      exact ⟨c, hc, (hinitial later (List.mem_of_mem_tail hlater) c hc).1 ▸ hcased⟩
    · rintro ⟨c, hc, halpha⟩
      exact ⟨c, hc, (hinitial later (List.mem_of_mem_tail hlater) c hc).1.trans halpha⟩
  rw [snake_pascal_iff hplain, IsJoinedAtLetters]
  exact or_congr_right (and_congr_right fun _ => forall₂_congr hletters)

end Watchtower.Naming
