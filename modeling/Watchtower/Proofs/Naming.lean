-- Spellings of names. The spelling of a member keeps what has no capitals, and begins anew behind
-- a joint; the mark of a raw identifier keeps identifiers apart where no name has such a mark.
import Mathlib.Data.List.Nodup
import Watchtower.Blueprint.Names
import Watchtower.Naming

namespace Watchtower.Naming

open Text (isUpper lowerChar)

/-! ## Member spellings -/

/-- The character stands in a spelling as it is. -/
def IsKept (c : Char) : Prop := isUpper c = false ∧ isJoint c = false

theorem snakeList_append {word : List Char} (hword : ∀ c ∈ word, IsKept c) (fresh : Bool)
    (rest : List Char) :
    ∃ fresh', snakeList fresh (word ++ rest) = word ++ snakeList fresh' rest := by
  induction word generalizing fresh with
  | nil => exact ⟨fresh, rfl⟩
  | cons c word ih =>
    obtain ⟨fresh', heq⟩ := ih (fun d hd => hword d (List.mem_cons_of_mem _ hd)) false
    obtain ⟨hupper, hjoint⟩ := hword c List.mem_cons_self
    exact ⟨fresh', by simp [snakeList, hupper, hjoint, heq]⟩

/-- A word without capitals and joints is spelled as it is. -/
theorem snakeList_kept {word : List Char} (hword : ∀ c ∈ word, IsKept c) (fresh : Bool) :
    snakeList fresh word = word := by
  obtain ⟨fresh', heq⟩ := snakeList_append hword fresh []
  simpa [snakeList] using heq

/-- Behind an underscore a spelling begins anew. -/
theorem snakeList_underscore {word : List Char} (hword : ∀ c ∈ word, IsKept c) (fresh : Bool)
    (rest : List Char) :
    snakeList fresh (word ++ '_' :: rest) = word ++ '_' :: snakeList true rest := by
  have hupper : isUpper '_' = false := by decide
  obtain ⟨fresh', heq⟩ := snakeList_append hword fresh ('_' :: rest)
  simpa [snakeList, hupper, isJoint] using heq

instance (c : Char) : Decidable (IsKept c) := inferInstanceAs (Decidable (_ ∧ _))

theorem isKept_of_isDigit {c : Char} (h : c.isDigit) : IsKept c := by
  have hrange : 48 ≤ c.toNat ∧ c.toNat ≤ 57 := by
    simpa [Char.isDigit, UInt32.le_iff_toNat_le] using h
  have hne : ∀ d : Char, 57 < d.toNat → c ≠ d := by
    rintro d hd rfl
    omega
  have hlow : ∀ d : Char, d.toNat < 48 → c ≠ d := by
    rintro d hd rfl
    omega
  refine ⟨?_, ?_⟩
  · have hcapital : c.isUpper = false := by
      rw [Bool.eq_false_iff]
      intro hupper
      have hlow : 65 ≤ c.toNat := UInt32.le_iff_toNat_le.mp (of_decide_eq_true hupper).1
      omega
    have hascii : c.toNat < 128 := by omega
    simp [isUpper, hascii, hcapital]
  · simp [isJoint, hne '_' (by decide), hlow '-' (by decide), hlow '.' (by decide)]

/-- A name with a prefix is spelled with the same prefix. -/
theorem snake_prefixed {word : String} (hword : ∀ c ∈ word.toList, IsKept c) (name : String) :
    snake (word ++ "_" ++ name) = word ++ "_" ++ snake name := by
  apply String.toList_injective
  simp [snake, snakeList_underscore hword]

theorem isKept_of_all {word : String} (h : word.toList.all (fun c => decide (IsKept c)) = true) :
    ∀ c ∈ word.toList, IsKept c :=
  fun c hc => of_decide_eq_true (List.all_eq_true.mp h c hc)

theorem snake_get (name : String) : snake ("get_" ++ name) = "get_" ++ snake name := by
  have hword : ∀ c ∈ "get".toList, IsKept c := isKept_of_all (by decide)
  exact snake_prefixed hword name

theorem snake_set (name : String) : snake ("set_" ++ name) = "set_" ++ snake name := by
  have hword : ∀ c ∈ "set".toList, IsKept c := isKept_of_all (by decide)
  exact snake_prefixed hword name

/-- A numbered name is spelled as it is. -/
theorem snake_numbered {base : String} (hbase : ∀ c ∈ base.toList, IsKept c) (n : Nat) :
    snake (NameSupply.numbered base n) = NameSupply.numbered base n := by
  have hdigits : ∀ c ∈ (toString n).toList, IsKept c := by
    intro c hc
    have hc : c ∈ Nat.toDigits 10 n := by simpa using hc
    exact isKept_of_isDigit (Nat.isDigit_of_mem_toDigits (by decide) (by decide) hc)
  have hsame : snake (toString n) = toString n := by
    apply String.toList_injective
    simp only [snake, String.toList_ofList, snakeList_kept hdigits]
  rw [NameSupply.numbered, snake_prefixed hbase, hsame]

/-! ## Identifiers -/

/-- The name has no mark of a raw identifier. -/
def Unmarked (name : String) : Prop := '#' ∉ name.toList

instance (name : String) : Decidable (Unmarked name) :=
  inferInstanceAs (Decidable (¬ '#' ∈ name.toList))

theorem unmarked_numbered {base : String} (hbase : Unmarked base) (n : Nat) :
    Unmarked (NameSupply.numbered base n) := by
  have hdigits : '#' ∉ Nat.toDigits 10 n := fun h =>
    absurd (Nat.isDigit_of_mem_toDigits (by decide) (by decide) h) (by decide)
  simpa [Unmarked, NameSupply.numbered] using ⟨hbase, hdigits⟩

theorem ofNat_ne_mark {n : Nat} (h : n ≠ 35) : Char.ofNat n ≠ '#' := by
  have hcode : (Char.ofNat n).toNat ≠ 35 := by
    unfold Char.ofNat
    by_cases hvalid : n.isValidChar
    · rw [dif_pos hvalid]
      exact h
    · rw [dif_neg hvalid]
      decide
  rintro heq
  exact hcode (heq ▸ rfl)

/-- Characters beyond a bound are shifted beyond it where all runs are. -/
theorem lt_of_shift? {bound n m : Nat} {runs : List (Nat × Nat × Nat × Int)}
    (hruns : ∀ run ∈ runs, (bound : Int) < run.1 + run.2.2.2)
    (h : Text.Cased.shift? n runs = some m) : bound < m := by
  induction runs with
  | nil => cases h
  | cons run runs ih =>
    obtain ⟨first, last, stride, delta⟩ := run
    have hfirst := hruns _ List.mem_cons_self
    rw [Text.Cased.shift?] at h
    split at h
    · rename_i hin
      simp only [Bool.and_eq_true, decide_eq_true_eq, beq_iff_eq] at hin
      cases h
      simp only at hfirst
      omega
    · exact ih (fun run hrun => hruns run (List.mem_cons_of_mem _ hrun)) h

/-- No character but the mark itself has the mark in its lower case. -/
theorem not_mem_lowerChar {c : Char} (h : c ≠ '#') : '#' ∉ lowerChar c := by
  unfold lowerChar
  split
  · rename_i hascii
    have hlower : ∀ n < 128, n ≠ 35 → (Char.ofNat n).toLower ≠ '#' := by decide +kernel
    have hcode : c.toNat ≠ 35 := fun heq => h (Char.toNat_inj.mp heq)
    have hne := hlower c.toNat hascii hcode
    rw [Char.ofNat_toNat] at hne
    simpa using hne.symm
  · unfold Text.Cased.mapped
    split
    · rename_i ns hlong
      have hmaps : ∀ entry ∈ Text.Cased.lowerLong, '#' ∉ entry.2.map Char.ofNat := by decide
      obtain ⟨before, after, htable, -⟩ := List.lookup_eq_some_iff.mp hlong
      exact hmaps (c.toNat, ns) (by rw [htable]; simp)
    · split
      · rename_i m hshift
        have hruns : ∀ run ∈ Text.Cased.lowerRuns, ((35 : Nat) : Int) < run.1 + run.2.2.2 := by
          decide +kernel
        have hlt := lt_of_shift? hruns hshift
        simpa using (ofNat_ne_mark (by omega)).symm
      · simpa using h.symm

/-- The spelling of an unmarked name is unmarked. -/
theorem unmarked_snake {name : String} (h : Unmarked name) : Unmarked (snake name) := by
  suffices hlist : ∀ (cs : List Char) (fresh : Bool), '#' ∉ cs → '#' ∉ snakeList fresh cs by
    simpa [Unmarked, snake] using hlist _ true h
  intro cs
  induction cs with
  | nil => simp [snakeList]
  | cons c cs ih =>
    intro fresh hcs
    obtain ⟨hne, hrest⟩ := not_or.mp (mt List.mem_cons.mpr hcs)
    have hlower := not_mem_lowerChar (Ne.symm hne)
    rw [snakeList]
    split
    · split
      · simpa using ⟨hlower, ih false hrest⟩
      · simpa using ⟨hlower, ih false hrest⟩
    · split
      · simpa using ih true hrest
      · simpa using ⟨hne, ih false hrest⟩

theorem not_unmarked_raw (s : String) : ¬ Unmarked ("r#" ++ s) := by
  simp [Unmarked]

/-- Unmarked names of one identifier have one spelling. -/
theorem snake_eq_of_ident {a b : String} (ha : Unmarked a) (hb : Unmarked b)
    (h : ident a = ident b) : snake a = snake b := by
  simp only [ident] at h
  split at h
  · split at h
    · exact (String.append_right_inj _).mp h
    · exact absurd (h ▸ unmarked_snake hb) (not_unmarked_raw _)
  · split at h
    · exact absurd (h ▸ unmarked_snake ha) (not_unmarked_raw _)
    · exact h

/-- A name with a spelling of its own has an identifier of its own, too. -/
theorem ident_not_mem {fixed : List String} (hfixed : ∀ name ∈ fixed, Unmarked name)
    {name : String} (h : snake name ∉ fixed) : ident name ∉ fixed := by
  intro hmem
  simp only [ident] at hmem
  split at hmem
  · exact not_unmarked_raw _ (hfixed _ hmem)
  · exact h hmem

/-- Where unmarked names have distinct spellings, and none that is taken, they have distinct
identifiers, and none that is taken. -/
theorem ident_nodup {fixed names : List String} (hfixed : ∀ name ∈ fixed, Unmarked name)
    (hdistinct : fixed.Nodup) (hnames : ∀ name ∈ names, Unmarked name)
    (hspelled : (names.map snake).Nodup) (hfree : ∀ name ∈ names, snake name ∉ fixed) :
    (fixed ++ names.map ident).Nodup := by
  refine List.nodup_append.mpr ⟨hdistinct, ?_, ?_⟩
  · refine List.pairwise_map.mpr ((List.pairwise_map.mp hspelled).imp_of_mem ?_)
    intro a b ha hb hne heq
    exact hne (snake_eq_of_ident (hnames a ha) (hnames b hb) heq)
  · rintro taken htaken _ hident rfl
    obtain ⟨name, hname, heq⟩ := List.mem_map.mp hident
    exact ident_not_mem hfixed (hfree name hname) (heq ▸ htaken)

end Watchtower.Naming
