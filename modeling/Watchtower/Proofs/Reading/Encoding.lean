-- The values that decimals are written as. Such a value is read as the number that the decimal
-- stands for, and numbers have one value each, however many places their decimals have.
import Watchtower.Proofs.Decimal.Text
import Watchtower.Reading

namespace Watchtower

namespace Reading

theorem numeric_text (d : Decimal) : numeric (.str d.text) = .ok d := by
  rw [numeric, Text.trim_of_unblank d.unblank_text, ofText, Decimal.ofText?_text]

theorem numeric_ofInt {d : Decimal} {n : Int} (hn : d.coefficient = n) (h : d.scale = 0) :
    numeric (.ofInt n) = .ok d := by
  rw [← hn, Json.ofInt, numeric, ← Decimal.text_of_scale_zero h, ofText, Decimal.ofText?_text]

/-- The value of a decimal is read as its shortest notation. -/
theorem numeric_ofDecimal (d : Decimal) : numeric (ofDecimal d) = .ok d.normalize := by
  rw [ofDecimal]
  split
  · case isTrue hword => exact numeric_ofInt rfl hword.1
  · exact numeric_text d.normalize

theorem ofDecimal_congr {a b : Decimal} (h : a.normalize = b.normalize) :
    ofDecimal a = ofDecimal b := by
  rw [ofDecimal, ofDecimal, h]

theorem ofDecimal_eq_iff {a b : Decimal} : ofDecimal a = ofDecimal b ↔ a.value = b.value := by
  rw [← Decimal.normalize_eq_iff]
  refine ⟨fun h => ?_, ofDecimal_congr⟩
  have hread := numeric_ofDecimal a
  rw [h, numeric_ofDecimal b] at hread
  exact (Except.ok.inj hread).symm

/-- A whole number that has room is read as itself. -/
theorem numeric_whole {n : Int} (h : n.natAbs < Decimal.capacity) :
    ∃ d, numeric (.ofInt n) = .ok d ∧ d.value = n := by
  obtain ⟨d, hn, hscale⟩ : ∃ d : Decimal, d.coefficient = n ∧ d.scale = 0 :=
    ⟨⟨n, 0, h, Nat.zero_le _⟩, rfl, rfl⟩
  refine ⟨d, numeric_ofInt hn hscale, ?_⟩
  rw [Decimal.value, Decimal.scaled, hn, hscale, pow_zero, div_one]

end Reading

/-- The value of a decimal is read as the number that the decimal stands for, and two decimals have
the same value just where they stand for the same number. The whole numbers of 64 bits, with a sign
or without, are read as themselves. -/
theorem decimals_have_one_value_for_each_number :
    (∀ d : Decimal, ∃ again, Reading.numeric (Reading.ofDecimal d) = .ok again ∧
      again.value = d.value) ∧
    (∀ a b : Decimal, Reading.ofDecimal a = Reading.ofDecimal b ↔ a.value = b.value) ∧
    ∀ n : Int, -2 ^ 63 ≤ n → n < 2 ^ 64 →
      ∃ d, Reading.numeric (.ofInt n) = .ok d ∧ d.value = n := by
  refine ⟨fun d => ?_, fun a b => Reading.ofDecimal_eq_iff, fun n hlow hhigh => ?_⟩
  · exact ⟨d.normalize, Reading.numeric_ofDecimal d, d.value_normalize⟩
  · have hcapacity : Decimal.capacity = 2 ^ 96 := rfl
    exact Reading.numeric_whole (by omega)

/-- The largest number of 64 bits without a sign. -/
theorem the_largest_word_is_read_as_itself :
    ∃ d, Reading.numeric (.ofInt 18446744073709551615) = .ok d ∧
      d.value = (18446744073709551615 : Int) :=
  decimals_have_one_value_for_each_number.2.2 18446744073709551615 (by decide) (by decide)

/-- A whole number with a place is a number as long as it fits 64 bits with a sign, and the next
one is a text. -/
example :
    Reading.ofDecimal ⟨92233720368547758070, 1, by decide, by decide⟩ =
        .ofInt 9223372036854775807 ∧
      Reading.ofDecimal ⟨92233720368547758080, 1, by decide, by decide⟩ =
        .str "9223372036854775808" :=
  ⟨rfl, rfl⟩

end Watchtower
