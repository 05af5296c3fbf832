-- Texts made of pieces. Pieces without separators are found again where a text is cut, so texts
-- that are joined from them determine their pieces.
import Watchtower.Text.Blank
import Watchtower.Text.Split

namespace Watchtower.Text

/-! ## Cutting -/

theorem splitList_ne_nil (p : Char → Bool) (cs : List Char) : splitList p cs ≠ [] := by
  cases cs with
  | nil => simp [splitList]
  | cons c cs =>
    rw [splitList]
    split
    · simp
    · split <;> simp

/-- Characters that are no separators stay before the first piece of what follows them. -/
theorem splitList_append {p : Char → Bool} {word text piece : List Char}
    {pieces : List (List Char)} (hword : ∀ c ∈ word, p c = false)
    (htext : splitList p text = piece :: pieces) :
    splitList p (word ++ text) = (word ++ piece) :: pieces := by
  induction word with
  | nil => exact htext
  | cons c word ih =>
    have hrest := ih fun d hd => hword d (by simp [hd])
    simp [splitList, hword c (by simp), hrest]

theorem beq_of_not_mem {sep : Char} {word : List Char} (h : sep ∉ word) :
    ∀ c ∈ word, (c == sep) = false := by
  intro c hc
  have hne : c ≠ sep := by
    rintro rfl
    exact h hc
  simpa using hne

/-- Characters without separators are one piece. -/
theorem splitList_of_not_mem {sep : Char} {word : List Char} (h : sep ∉ word) :
    splitList (· == sep) word = [word] := by
  have hword : splitList (· == sep) (word ++ []) = _ := splitList_append (beq_of_not_mem h) rfl
  simpa using hword

/-- A separator ends the pieces of what stands before it. -/
theorem splitList_append_cons {p : Char → Bool} {sep : Char} (hsep : p sep = true)
    (first second : List Char) :
    splitList p (first ++ sep :: second) = splitList p first ++ splitList p second := by
  induction first with
  | nil => simp [splitList, hsep]
  | cons c rest ih =>
    rw [List.cons_append, splitList, splitList, ih]
    split
    · rfl
    · cases hrest : splitList p rest with
      | nil => exact absurd hrest (splitList_ne_nil p rest)
      | cons piece pieces => rfl

/-- No piece holds a separator. -/
theorem splitList_pieces (p : Char → Bool) (cs : List Char) :
    ∀ piece ∈ splitList p cs, ∀ c ∈ piece, p c = false := by
  induction cs with
  | nil => simp [splitList]
  | cons c cs ih =>
    rw [splitList]
    split
    · intro piece hpiece
      rcases List.mem_cons.mp hpiece with rfl | hrest
      · simp
      · exact ih piece hrest
    · rename_i hc
      cases hsplit : splitList p cs with
      | nil => exact absurd hsplit (splitList_ne_nil p cs)
      | cons first rest =>
        rw [hsplit] at ih
        intro piece hpiece d hd
        rcases List.mem_cons.mp hpiece with rfl | hrest
        · rcases List.mem_cons.mp hd with rfl | htail
          · simpa using hc
          · exact ih first (by simp) d htail
        · exact ih piece (by simp [hrest]) d hd

/-- A piece has its characters from the text. -/
theorem mem_of_mem_splitList {p : Char → Bool} {cs piece : List Char} {c : Char}
    (hpiece : piece ∈ splitList p cs) (hc : c ∈ piece) : c ∈ cs := by
  induction cs generalizing piece with
  | nil =>
    rw [splitList, List.mem_singleton] at hpiece
    exact hpiece ▸ hc
  | cons d cs ih =>
    rw [splitList] at hpiece
    cases hsplit : splitList p cs with
    | nil => exact absurd hsplit (splitList_ne_nil p cs)
    | cons first rest =>
      rw [hsplit] at hpiece ih
      split at hpiece
      · rcases List.mem_cons.mp hpiece with rfl | hlater
        · cases hc
        · exact List.mem_cons_of_mem _ (ih hlater hc)
      · rcases List.mem_cons.mp hpiece with rfl | hlater
        · exact (List.mem_cons.mp hc).elim (fun heq => heq ▸ List.mem_cons_self)
            fun htail => List.mem_cons_of_mem _ (ih List.mem_cons_self htail)
        · exact List.mem_cons_of_mem _ (ih (List.mem_cons_of_mem _ hlater) hc)

/-! ## Beginnings -/

@[simp] theorem after?_append (head s : String) : after? head (head ++ s) = some s := by
  have hdrop : (head.toList ++ s.toList).drop head.length = s.toList :=
    List.drop_left' String.length_toList
  simp [after?, hdrop]

/-! ## Joining -/

theorem join_cons {sep s : String} {rest : List String} (h : rest ≠ []) :
    join sep (s :: rest) = s ++ sep ++ join sep rest := by
  cases rest with
  | nil => exact absurd rfl h
  | cons => rfl

/-- A piece that is joined to the first one may stand for itself. -/
theorem join_append_cons (sep s next : String) (rest : List String) :
    join sep ((s ++ sep ++ next) :: rest) = join sep (s :: next :: rest) := by
  cases rest with
  | nil => rfl
  | cons => simp [join, String.append_assoc]

/-- Pieces that do not hold the character between them are found again. -/
theorem split_join {sep : Char} {pieces : List String} (hne : pieces ≠ [])
    (h : ∀ s ∈ pieces, sep ∉ s.toList) :
    split (· == sep) (join (String.singleton sep) pieces) = pieces := by
  have hsplit : splitList (· == sep) (join (String.singleton sep) pieces).toList =
      pieces.map String.toList := by
    induction pieces with
    | nil => exact absurd rfl hne
    | cons s rest ih =>
      have hs := splitList_of_not_mem (h s (by simp))
      by_cases hrest : rest = []
      · subst hrest
        simpa [join] using hs
      · have hpieces := ih hrest fun t ht => h t (by simp [ht])
        have htext : (join (String.singleton sep) (s :: rest)).toList =
            s.toList ++ sep :: (join (String.singleton sep) rest).toList := by
          simp [join_cons hrest]
        rw [htext, splitList_append_cons (p := (· == sep)) (by simp), hs, hpieces]
        rfl
  unfold split
  rw [hsplit, List.map_map]
  simp [Function.comp_def]

/-! ## Dots -/

/-- The text holds no dot. -/
def Undotted (s : String) : Prop := '.' ∉ s.toList

instance (s : String) : Decidable (Undotted s) :=
  inferInstanceAs (Decidable (¬ '.' ∈ s.toList))

/-- Pieces without dots are found again between the dots. -/
theorem dotted_join {pieces : List String} (hne : pieces ≠ [])
    (h : ∀ s ∈ pieces, Undotted s) : dotted (join "." pieces) = pieces := by
  have hdot : "." = String.singleton '.' := rfl
  rw [hdot]
  exact split_join hne h

/-- Texts that are joined with dots from pieces without dots determine their pieces. -/
theorem join_dots_inj {first second : List String} (hfirst : first ≠ []) (hsecond : second ≠ [])
    (hf : ∀ s ∈ first, Undotted s) (hs : ∀ s ∈ second, Undotted s)
    (h : join "." first = join "." second) : first = second := by
  rw [← dotted_join hfirst hf, ← dotted_join hsecond hs, h]

theorem undotted_of_mem_dotted {s piece : String} (h : piece ∈ dotted s) : Undotted piece := by
  obtain ⟨cs, hcs, rfl⟩ := List.mem_map.mp h
  intro hdot
  rw [String.toList_ofList] at hdot
  have hno := splitList_pieces (· == '.') s.toList cs hcs '.' hdot
  simp at hno

theorem lastDotted_undotted (s : String) : Undotted (lastDotted s) := by
  have hne : dotted s ≠ [] := by
    unfold dotted split
    rw [ne_eq, List.map_eq_nil_iff]
    exact splitList_ne_nil _ _
  have hlast : lastDotted s = (dotted s).getLast hne := by
    have hsome := List.getLast?_eq_some_getLast hne
    show (dotted s).getLastD "" = _
    rw [List.getLastD_eq_getLast?, hsome, Option.getD_some]
  rw [hlast]
  exact undotted_of_mem_dotted (List.getLast_mem hne)

/-! ## Texts without blanks -/

/-- Whether a text has no blanks can be decided by a look at its own characters. -/
theorem unblank_iff {s : String} :
    (∀ c ∈ s.toList, isBlank c = false) ↔ s.toList.all (fun c => !isBlank c) = true := by
  simp only [List.all_eq_true, Bool.not_eq_true']

/-- The visible characters of ASCII are no blanks. -/
theorem isBlank_of_code {c : Char} (hlow : 0x20 < c.toNat) (hhigh : c.toNat < 0x7f) :
    isBlank c = false := by
  grind [isBlank]

theorem trimEndList_of_last {cs : List Char} (h : ∀ c ∈ cs.getLast?, isBlank c = false) :
    trimEndList cs = cs := by
  induction cs with
  | nil => rfl
  | cons c rest ih =>
    cases rest with
    | nil => simp [trimEndList, h c rfl]
    | cons d ds =>
      have hrest := ih (by simpa using h)
      rw [trimEndList, hrest]

/-- A text with no blank at either end is its own trim. -/
theorem trim_of_ends {s : String} (hhead : ∀ c ∈ s.toList.head?, isBlank c = false)
    (hlast : ∀ c ∈ s.toList.getLast?, isBlank c = false) : trim s = s := by
  have hdrop : s.toList.dropWhile isBlank = s.toList := by
    cases hs : s.toList with
    | nil => rfl
    | cons c cs =>
      have hc := hhead c (by simp [hs])
      simp [hc]
  rw [trim, trimList, hdrop, trimEndList_of_last hlast, String.ofList_toList]

theorem trim_of_unblank {s : String} (h : ∀ c ∈ s.toList, isBlank c = false) : trim s = s :=
  trim_of_ends (fun c hc => h c (List.mem_of_head? hc)) fun c hc => h c (List.mem_of_getLast? hc)

end Watchtower.Text
