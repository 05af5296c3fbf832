-- The text of a decimal is read back as the same decimal, with all its places. Its digits are read
-- one by one, and the number read so far stays below the coefficient, so there is always room.
import Watchtower.Decimal.Reader
import Watchtower.Json.Number
import Watchtower.Proofs.Decimal.Value
import Watchtower.Proofs.Text.Digits

namespace Watchtower.Decimal

open Text (ne_of_isDigit isDigit_toDigits le_ofDigitChars isBlank_of_isDigit)

/-! ## The digits of a decimal -/

theorem isDigit_paddedDigits (width n : Nat) : ∀ c ∈ paddedDigits width n, c.isDigit := by
  intro c hc
  rcases List.mem_append.mp hc with hzero | hdigit
  · rw [List.eq_of_mem_replicate hzero]
    decide
  · exact isDigit_toDigits n c hdigit

/-- Zeros in front change nothing. -/
theorem ofDigitChars_paddedDigits (width n : Nat) :
    Nat.ofDigitChars 10 (paddedDigits width n) 0 = n := by
  rw [paddedDigits, Nat.ofDigitChars_append, Nat.ofDigitChars_replicate_zero, Nat.mul_zero,
    Nat.ofDigitChars_toDigits (by decide) (by decide)]

theorem le_length_paddedDigits (width n : Nat) : width ≤ (paddedDigits width n).length := by
  rw [paddedDigits, List.length_append, List.length_replicate]
  omega

/-- The digits of a decimal before the point and behind it. -/
structure AreDigitsOf (whole places : List Char) (d : Decimal) : Prop where
  whole_ne_nil : whole ≠ []
  length_places : places.length = d.scale
  isDigit : ∀ c ∈ whole ++ places, c.isDigit
  coefficient : Nat.ofDigitChars 10 (whole ++ places) 0 = d.coefficient.natAbs

/-- The places with the point in front of them, if there are any. -/
def pointed (places : List Char) : List Char :=
  if places.isEmpty then [] else '.' :: places

/-- As many digits as the decimal has places stand behind the point, and one at least before it. -/
theorem toList_text (d : Decimal) : ∃ whole places, AreDigitsOf whole places d ∧
    d.text.toList = (if d.coefficient < 0 then ['-'] else []) ++ whole ++ pointed places := by
  have hlength := le_length_paddedDigits (d.scale + 1) d.coefficient.natAbs
  refine ⟨_, _, ⟨?_, ?_, ?_, ?_⟩, String.toList_ofList⟩
  · rw [← List.length_pos_iff, List.length_take]
    omega
  · rw [List.length_drop]
    omega
  · rw [List.take_append_drop]
    exact isDigit_paddedDigits _ _
  · rw [List.take_append_drop]
    exact ofDigitChars_paddedDigits _ _

/-- The text of a decimal holds no blank. -/
theorem unblank_text (d : Decimal) : ∀ c ∈ d.text.toList, Text.isBlank c = false := by
  obtain ⟨whole, places, hdigits, htext⟩ := toList_text d
  have hsign : ∀ c ∈ if d.coefficient < 0 then ['-'] else [], Text.isBlank c = false := by
    split
    · exact List.forall_mem_singleton.mpr rfl
    · exact List.forall_mem_nil _
  have hwhole : ∀ c ∈ whole, Text.isBlank c = false :=
    fun c hc => isBlank_of_isDigit (hdigits.isDigit c (List.mem_append_left _ hc))
  have hplaces : ∀ c ∈ places, Text.isBlank c = false :=
    fun c hc => isBlank_of_isDigit (hdigits.isDigit c (List.mem_append_right _ hc))
  have hpointed : ∀ c ∈ pointed places, Text.isBlank c = false := by
    rw [pointed]
    split
    · exact List.forall_mem_nil _
    · exact List.forall_mem_cons.mpr ⟨by decide, hplaces⟩
  rw [htext]
  exact List.forall_mem_append.mpr ⟨List.forall_mem_append.mpr ⟨hsign, hwhole⟩, hpointed⟩

/-! ## Reading digits -/

theorem digit?_of_isDigit {c : Char} (h : c.isDigit) : digit? c = some (c.toNat - '0'.toNat) :=
  if_pos (Char.isDigit_iff_toNat.mp h)

/-- What was read when digits follow for which there is room. -/
def Scan.after (st : Scan) (cs : List Char) : Scan where
  mantissa := Nat.ofDigitChars 10 cs st.mantissa
  scale := st.scale + if st.point then cs.length else 0
  point := st.point
  seen := st.seen || !cs.isEmpty

/-- Digits for which there is room are all read. -/
theorem scan_digits {cs : List Char} (hcs : ∀ c ∈ cs, c.isDigit) (rest : List Char) (st : Scan)
    (hroom : (st.after cs).mantissa < capacity) (hscale : (st.after cs).scale ≤ maxScale) :
    scan st (cs ++ rest) = scan (st.after cs) rest := by
  induction cs generalizing st with
  | nil => simp [Scan.after]
  | cons c cs ih =>
    obtain ⟨hc, hlater⟩ := List.forall_mem_cons.mp hcs
    have hafter : st.after (c :: cs) =
        Scan.after ⟨st.mantissa * 10 + (c.toNat - '0'.toNat),
          if st.point then st.scale + 1 else st.scale, st.point, true⟩ cs := by
      rw [Scan.after, Scan.after, Nat.ofDigitChars_cons, Nat.mul_comm 10]
      cases st.point <;> simp [Nat.add_assoc, Nat.add_comm 1]
    rw [hafter] at hroom hscale ⊢
    -- What is read after all digits is no less than what is read after one of them.
    have hfits : st.mantissa * 10 + (c.toNat - '0'.toNat) < capacity ∧
        (if st.point then st.scale + 1 else st.scale) ≤ maxScale :=
      ⟨Nat.lt_of_le_of_lt (le_ofDigitChars cs _) hroom,
        Nat.le_trans (Nat.le_add_right _ _) hscale⟩
    rw [List.cons_append, scan, digit?_of_isDigit hc]
    exact (if_pos hfits).trans (ih hlater _ hroom hscale)

theorem scan_point {st : Scan} (h : st.point = false) (cs : List Char) :
    scan st ('.' :: cs) = scan { st with point := true } cs := by
  have hnone : digit? '.' = none := rfl
  simp [scan, hnone, h]

theorem AreDigitsOf.scan_eq {whole places : List Char} {d : Decimal}
    (h : AreDigitsOf whole places d) :
    scan {} (whole ++ pointed places) = some (d.coefficient.natAbs, d.scale) := by
  obtain ⟨hne, hlength, hdigits, hcoefficient⟩ := h
  obtain ⟨hwhole, hplaces⟩ := List.forall_mem_append.mp hdigits
  rw [Nat.ofDigitChars_append] at hcoefficient
  have hseen : whole.isEmpty = false := by simpa using hne
  have hroom : Nat.ofDigitChars 10 whole 0 < capacity := by
    refine Nat.lt_of_le_of_lt (le_ofDigitChars places _) ?_
    rw [hcoefficient]
    exact d.coefficient_lt
  rw [scan_digits hwhole _ {} hroom (Nat.zero_le _)]
  cases places with
  | nil =>
    rw [List.length_nil] at hlength
    rw [← hcoefficient, ← hlength]
    simp [pointed, scan, Scan.after, hseen]
  | cons c cs =>
    have hlast : { Scan.after {} whole with point := true }.after (c :: cs) =
        ⟨d.coefficient.natAbs, d.scale, true, true⟩ := by
      simp [Scan.after, hseen, ← hcoefficient, ← hlength]
    have hpointed : pointed (c :: cs) = '.' :: (c :: cs ++ []) := by simp [pointed]
    rw [hpointed, scan_point rfl, scan_digits hplaces, hlast]
    · rfl
    · rw [hlast]
      exact d.coefficient_lt
    · rw [hlast]
      exact d.scale_le

/-! ## Reading the text -/

theorem signed_append (negative : Bool) {c : Char} (hc : c.isDigit) (cs : List Char) :
    signed ((if negative then ['-'] else []) ++ c :: cs) = (negative, c :: cs) := by
  cases negative with
  | true => rfl
  | false =>
    have hminus : c ≠ '-' := ne_of_isDigit hc rfl
    have hplus : c ≠ '+' := ne_of_isDigit hc rfl
    simp [signed, hminus, hplus]

theorem ofParts?_eq (d : Decimal) :
    ofParts? (decide (d.coefficient < 0)) d.coefficient.natAbs d.scale = some d := by
  refine make?_eq_some.mpr ⟨?_, rfl⟩
  split
  · case isTrue hsign =>
    have hnegative : d.coefficient < 0 := of_decide_eq_true hsign
    omega
  · case isFalse hsign =>
    have hnonneg : ¬ d.coefficient < 0 := by simpa using hsign
    omega

/-- The text of a decimal is read as this decimal. -/
theorem ofText?_text (d : Decimal) : ofText? d.text = some d := by
  obtain ⟨whole, places, hdigits, htext⟩ := toList_text d
  have hscan := hdigits.scan_eq
  obtain ⟨c, cs, rfl⟩ := List.exists_cons_of_ne_nil hdigits.whole_ne_nil
  have hsigned : signed d.text.toList =
      (decide (d.coefficient < 0), c :: cs ++ pointed places) := by
    have hsign := signed_append (decide (d.coefficient < 0)) (hdigits.isDigit c (by simp))
      (cs ++ pointed places)
    rw [htext, List.append_assoc]
    simpa using hsign
  have hplain : readPlain d.text.toList = some d := by
    simp only [readPlain, hsigned, hscan, Option.bind_some, ofParts?_eq]
  rw [ofText?, hplain, Option.some_or]

/-- A decimal without places is written as a whole number. -/
theorem text_of_scale_zero {d : Decimal} (h : d.scale = 0) :
    d.text = String.ofList (Number.int d.coefficient).text := by
  have hpos : 1 ≤ (Nat.toDigits 10 d.coefficient.natAbs).length := Nat.length_toDigits_pos
  have hdigits : paddedDigits 1 d.coefficient.natAbs = Nat.toDigits 10 d.coefficient.natAbs := by
    simp [paddedDigits, Nat.sub_eq_zero_of_le hpos]
  simp [text, Number.text, h, hdigits]

end Watchtower.Decimal
