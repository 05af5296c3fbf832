-- The words of a text and its trim. A text is made of words and gaps, and whatever the gaps are,
-- the same words are read; the trim leaves out the two outer gaps and nothing else.
import Watchtower.Proofs.Text.Pieces

namespace Watchtower.Text

/-! ## Gaps -/

/-- The text holds nothing but blanks. -/
def IsGap (s : String) : Prop := ∀ c ∈ s.toList, isBlank c = true

instance (s : String) : Decidable (IsGap s) :=
  List.decidableBAll (isBlank · = true) s.toList

theorem isGap_empty : IsGap "" := by simp [IsGap]

theorem IsGap.append {first second : String} (hfirst : IsGap first) (hsecond : IsGap second) :
    IsGap (first ++ second) := by
  rw [IsGap, String.toList_append]
  exact List.forall_mem_append.mpr ⟨hfirst, hsecond⟩

/-- The text begins with the first of the words and is made of all of them, none of which is empty,
with a gap that is not empty between two of them and any gap behind the last. -/
inductive Spaced : List String → String → Prop where
  | last {word gap : String} (hword : word ≠ "") (hgap : IsGap gap) : Spaced [word] (word ++ gap)
  | next {word gap rest : String} {words : List String} (hword : word ≠ "") (hne : gap ≠ "")
      (hgap : IsGap gap) (hrest : Spaced words rest) : Spaced (word :: words) (word ++ gap ++ rest)

/-- The text is made of the words, with any gap in front of the first. -/
def IsMadeOf (text : String) (words : List String) : Prop :=
  ∃ gap rest, IsGap gap ∧ Spaced words rest ∧ text = gap ++ rest

theorem IsMadeOf.gap_append {gap text : String} {words : List String} (hgap : IsGap gap)
    (h : IsMadeOf text words) : IsMadeOf (gap ++ text) words := by
  obtain ⟨before, rest, hbefore, hrest, rfl⟩ := h
  exact ⟨gap ++ before, rest, hgap.append hbefore, hrest, String.append_assoc.symm⟩

theorem IsMadeOf.next {word gap text : String} {words : List String} (hword : word ≠ "")
    (hne : gap ≠ "") (hgap : IsGap gap) (h : IsMadeOf text words) :
    Spaced (word :: words) (word ++ gap ++ text) := by
  obtain ⟨before, rest, hbefore, hrest, rfl⟩ := h
  have hlonger : gap ++ before ≠ "" := by simp [hne]
  have hnext := Spaced.next hword hlonger (hgap.append hbefore) hrest
  rwa [← String.append_assoc, String.append_assoc] at hnext

/-- The words may be joined anew, with one gap in all places. -/
theorem Spaced.join {text gap : String} {words : List String} (h : Spaced words text)
    (hne : gap ≠ "") (hgap : IsGap gap) : Spaced words (Text.join gap words) := by
  induction h with
  | @last word _ hword _ =>
    have hlast := Spaced.last hword isGap_empty
    rwa [String.append_empty] at hlast
  | next hword _ _ hrest ih =>
    rw [join_cons (by rintro rfl; cases hrest)]
    exact .next hword hne hgap ih

theorem IsMadeOf.join {text gap : String} {words : List String} (h : IsMadeOf text words)
    (hne : gap ≠ "") (hgap : IsGap gap) : IsMadeOf (Text.join gap words) words := by
  obtain ⟨_, _, -, hrest, -⟩ := h
  exact ⟨"", _, isGap_empty, hrest.join hne hgap, String.empty_append.symm⟩

/-! ## The words that are read -/

theorem wordsFrom_unblank {cs : List Char} (h : ∀ c ∈ cs, isBlank c = false)
    (word rest : List Char) : wordsFrom word (cs ++ rest) = wordsFrom (word ++ cs) rest := by
  induction cs generalizing word with
  | nil => simp
  | cons c cs ih =>
    obtain ⟨hc, hcs⟩ := List.forall_mem_cons.mp h
    simp [wordsFrom, hc, ih hcs]

theorem wordsFrom_blank {c : Char} (hc : isBlank c = true) {word : List Char} (hword : word ≠ [])
    (rest : List Char) : wordsFrom word (c :: rest) = word :: wordsFrom [] rest := by
  simp [wordsFrom, hc, hword]

theorem wordsFrom_blanks {cs : List Char} (h : ∀ c ∈ cs, isBlank c = true) (rest : List Char) :
    wordsFrom [] (cs ++ rest) = wordsFrom [] rest := by
  induction cs with
  | nil => rfl
  | cons c cs ih =>
    obtain ⟨hc, hcs⟩ := List.forall_mem_cons.mp h
    simpa [wordsFrom, hc] using ih hcs

/-- Blanks at the end make no difference. -/
theorem wordsFrom_append_blanks {blanks : List Char} (h : ∀ c ∈ blanks, isBlank c = true)
    (word cs : List Char) : wordsFrom word (cs ++ blanks) = wordsFrom word cs := by
  induction cs generalizing word with
  | nil =>
    have hnone : wordsFrom [] blanks = [] := by simpa [wordsFrom] using wordsFrom_blanks h []
    cases blanks with
    | nil => rfl
    | cons c blanks =>
      obtain ⟨hc, -⟩ := List.forall_mem_cons.mp h
      rw [wordsFrom, if_pos hc] at hnone
      by_cases hword : word = []
      · simpa [wordsFrom, hword, hc] using hnone
      · simpa [wordsFrom, hword, hc] using hnone
  | cons c cs ih => simp [wordsFrom, ih]

theorem words_gap_append {gap : String} (h : IsGap gap) (s : String) :
    words (gap ++ s) = words s := by
  rw [words, String.toList_append, wordsFrom_blanks h, words]

theorem words_append_gap {gap : String} (h : IsGap gap) (s : String) :
    words (s ++ gap) = words s := by
  rw [words, String.toList_append, wordsFrom_append_blanks h, words]

/-- A word is read up to the gap behind it. -/
theorem words_append {word gap : String} (hword : word ≠ "")
    (hunblank : ∀ c ∈ word.toList, isBlank c = false) (hne : gap ≠ "") (hgap : IsGap gap)
    (rest : String) : words (word ++ gap ++ rest) = word :: words rest := by
  have hchars : word.toList ≠ [] := by simpa using hword
  obtain ⟨c, blanks, hblanks⟩ := List.exists_cons_of_ne_nil (show gap.toList ≠ [] by simpa using hne)
  rw [IsGap, hblanks] at hgap
  obtain ⟨hc, hrest⟩ := List.forall_mem_cons.mp hgap
  have htext : (word ++ gap ++ rest).toList = word.toList ++ (c :: (blanks ++ rest.toList)) := by
    simp [hblanks]
  rw [words, htext, wordsFrom_unblank hunblank, List.nil_append, wordsFrom_blank hc hchars,
    wordsFrom_blanks hrest]
  simp [words]

theorem words_of_unblank {word : String} (hword : word ≠ "")
    (hunblank : ∀ c ∈ word.toList, isBlank c = false) : words word = [word] := by
  have hchars : word.toList ≠ [] := by simpa using hword
  have hread := wordsFrom_unblank hunblank [] []
  rw [List.append_nil, List.nil_append, wordsFrom, if_neg (by simpa using hchars)] at hread
  simp [words, hread]

/-- Words without blanks are read from every text that is made of them. -/
theorem IsMadeOf.words_eq {text : String} {ws : List String} (h : IsMadeOf text ws)
    (hunblank : ∀ word ∈ ws, ∀ c ∈ word.toList, isBlank c = false) : words text = ws := by
  obtain ⟨before, rest, hbefore, hrest, rfl⟩ := h
  rw [words_gap_append hbefore]
  clear hbefore
  induction hrest with
  | last hword hgap =>
    rw [words_append_gap hgap, words_of_unblank hword (hunblank _ List.mem_cons_self)]
  | next hword hne hgap _ ih =>
    obtain ⟨hfirst, hlater⟩ := List.forall_mem_cons.mp hunblank
    rw [words_append hword hfirst hne hgap, ih hlater]

/-! ## What a text is made of -/

/-- A text is made of what is read of it, from the beginning of a word or between two words. -/
theorem wordsFrom_spaced (cs : List Char) :
    (∀ word ≠ [], Spaced ((wordsFrom word cs).map String.ofList) (String.ofList (word ++ cs))) ∧
    ((wordsFrom [] cs = [] ∧ IsGap (String.ofList cs)) ∨
      IsMadeOf (String.ofList cs) ((wordsFrom [] cs).map String.ofList)) := by
  -- A blank ends the word that is being read and any other character begins one, so each of the two
  -- parts needs the other.
  induction cs with
  | nil =>
    refine ⟨fun word hword => ?_, .inl ⟨rfl, isGap_empty⟩⟩
    have hlast : Spaced [String.ofList word] (String.ofList word ++ "") :=
      .last (by simpa using hword) isGap_empty
    simpa [wordsFrom, hword] using hlast
  | cons c cs ih =>
    obtain ⟨hinside, hbetween⟩ := ih
    by_cases hc : isBlank c = true
    · have hblank : IsGap (String.ofList [c]) := by simpa [IsGap] using hc
      have hsplit : String.ofList (c :: cs) = String.ofList [c] ++ String.ofList cs := by
        rw [← String.ofList_append, List.singleton_append]
      refine ⟨fun word hword => ?_, ?_⟩
      · have hfirst : String.ofList word ≠ "" := by simpa using hword
        rw [wordsFrom_blank hc hword, String.ofList_append, hsplit]
        rcases hbetween with ⟨hnone, hgap⟩ | hmade
        · rw [hnone]
          exact .last hfirst (hblank.append hgap)
        · rw [← String.append_assoc]
          exact hmade.next hfirst (by simp) hblank
      · have hskip : wordsFrom [] (c :: cs) = wordsFrom [] cs := by simp [wordsFrom, hc]
        rw [hskip, hsplit]
        exact hbetween.imp (And.imp_right hblank.append) (IsMadeOf.gap_append hblank)
    · have hkeep (word : List Char) : wordsFrom word (c :: cs) = wordsFrom (word ++ [c]) cs := by
        simp [wordsFrom, hc]
      refine ⟨fun word _ => ?_, .inr ⟨"", _, isGap_empty, ?_, String.empty_append.symm⟩⟩
      · rw [hkeep, List.append_cons word c cs]
        exact hinside (word ++ [c]) (by simp)
      · rw [hkeep]
        exact hinside [c] (by simp)

theorem isMadeOf_words {text : String} (h : words text ≠ []) : IsMadeOf text (words text) := by
  obtain ⟨-, ⟨hnone, -⟩ | hmade⟩ := wordsFrom_spaced text.toList
  · exact absurd (by rw [words, hnone, List.map_nil]) h
  · rwa [String.ofList_toList] at hmade

/-! ## Trimming -/

/-- The core of a text: what is left without its outer gaps. -/
structure IsCoreOf (core text : String) : Prop where
  between : ∃ before after, IsGap before ∧ IsGap after ∧ text = before ++ core ++ after
  head : ∀ c ∈ core.toList.head?, isBlank c = false
  last : ∀ c ∈ core.toList.getLast?, isBlank c = false

theorem IsCoreOf.words_eq {core text : String} (h : IsCoreOf core text) :
    words core = words text := by
  obtain ⟨before, after, hbefore, hafter, rfl⟩ := h.between
  rw [words_append_gap hafter, words_gap_append hbefore]

theorem IsCoreOf.trim_eq {core text : String} (h : IsCoreOf core text) : trim core = core :=
  trim_of_ends h.head h.last

theorem trimEndList_append (cs : List Char) :
    ∃ blanks, cs = trimEndList cs ++ blanks ∧ ∀ c ∈ blanks, isBlank c = true := by
  induction cs with
  | nil => exact ⟨[], rfl, List.forall_mem_nil _⟩
  | cons c cs ih =>
    obtain ⟨blanks, hcs, hblanks⟩ := ih
    rw [trimEndList]
    split
    · case h_1 hnone =>
      rw [hnone, List.nil_append] at hcs
      by_cases hc : isBlank c = true
      · exact ⟨c :: blanks, by simp [hc, hcs], List.forall_mem_cons.mpr ⟨hc, hblanks⟩⟩
      · exact ⟨blanks, by simp [hc, hcs], hblanks⟩
    · case h_2 d ds hsome =>
      exact ⟨blanks, by rw [hsome] at hcs; simp [hcs], hblanks⟩

theorem getLast?_trimEndList (cs : List Char) :
    ∀ c ∈ (trimEndList cs).getLast?, isBlank c = false := by
  induction cs with
  | nil => simp [trimEndList]
  | cons c cs ih =>
    rw [trimEndList]
    split
    · by_cases hc : isBlank c = true <;> simp [hc]
    · case h_2 d ds hsome =>
      rw [hsome] at ih
      simpa using ih

/-- The trim of a text is its core. -/
theorem isCoreOf_trim (text : String) : IsCoreOf (trim text) text := by
  obtain ⟨blanks, hcut, hblanks⟩ := trimEndList_append (text.toList.dropWhile isBlank)
  refine ⟨⟨String.ofList (text.toList.takeWhile isBlank), String.ofList blanks, ?_, ?_, ?_⟩, ?_, ?_⟩
  · rw [IsGap, String.toList_ofList]
    exact List.all_eq_true.mp List.all_takeWhile
  · rwa [IsGap, String.toList_ofList]
  · rw [trim, trimList, String.append_assoc, ← String.ofList_append, ← hcut,
      ← String.ofList_append, List.takeWhile_append_dropWhile, String.ofList_toList]
  · intro c hc
    have hfirst := List.head?_dropWhile_not isBlank text.toList
    rw [hcut, List.head?_append] at hfirst
    rw [trim, trimList, String.toList_ofList, Option.mem_def] at hc
    simpa [hc] using hfirst
  · rw [trim, String.toList_ofList]
    exact getLast?_trimEndList _

end Watchtower.Text
