-- The grammar of cron expressions. An expression is read just where the grammar has it, and its
-- fields are those that it is made of. What is kept of it is read as the same expression again.
import Watchtower.Cron
import Watchtower.Proofs.Text.Words

namespace Watchtower

namespace Cron

/-! ## The grammar -/

/-- An ASCII letter, an ASCII digit or an operator. -/
def IsFieldChar (c : Char) : Prop :=
  ('A' ≤ c ∧ c ≤ 'Z') ∨ ('a' ≤ c ∧ c ≤ 'z') ∨ ('0' ≤ c ∧ c ≤ '9') ∨
    c ∈ ['*', '?', ',', '-', '/', '#']

/-- The text is a field: it has no other characters, and no operator dangles at its ends. -/
structure IsField (field : String) : Prop where
  chars : ∀ c ∈ field.toList, IsFieldChar c
  head : ∀ c ∈ field.toList.head?, c ∉ ['/', ',', '-']
  last : ∀ c ∈ field.toList.getLast?, c ∉ ['/', ',', '-']

/-- The text is an expression with these fields: five to seven of them, with gaps between them and
around them. -/
structure IsExpression (text : String) (fields : List String) : Prop where
  made : Text.IsMadeOf text fields
  count : 5 ≤ fields.length ∧ fields.length ≤ 7
  valid : ∀ field ∈ fields, IsField field

theorem IsFieldChar.isBlank {c : Char} (h : IsFieldChar c) : Text.isBlank c = false := by
  have hrange {low high : Char} (hlow : 0x20 < low.toNat) (hhigh : high.toNat < 0x7f)
      (h : low ≤ c ∧ c ≤ high) : Text.isBlank c = false :=
    Text.isBlank_of_code (Nat.lt_of_lt_of_le hlow h.1) (Nat.lt_of_le_of_lt h.2 hhigh)
  rcases h with hupper | hlower | hdigit | hoperator
  · exact hrange (by decide) (by decide) hupper
  · exact hrange (by decide) (by decide) hlower
  · exact hrange (by decide) (by decide) hdigit
  · have hall : ∀ d ∈ ['*', '?', ',', '-', '/', '#'], Text.isBlank d = false := by
      simp [Text.isBlank]
    exact hall c hoperator

theorem isFieldChar_iff {c : Char} : isFieldChar c = true ↔ IsFieldChar c := by
  have hrange (low high : Char) :
      (decide (c.val ≥ low.val) && decide (c.val ≤ high.val)) = true ↔ low ≤ c ∧ c ≤ high := by
    rw [Bool.and_eq_true, decide_eq_true_iff, decide_eq_true_iff]
    rfl
  have halphanum : c.isAlphanum = (c.isUpper || c.isLower || c.isDigit) := rfl
  have hupper : c.isUpper ↔ 'A' ≤ c ∧ c ≤ 'Z' := decide_eq_true_iff
  have hlower : c.isLower ↔ 'a' ≤ c ∧ c ≤ 'z' := hrange 'a' 'z'
  have hdigit : c.isDigit ↔ '0' ≤ c ∧ c ≤ '9' := hrange '0' '9'
  simp [isFieldChar, IsFieldChar, halphanum, hupper, hlower, hdigit, or_assoc]

/-! ## What is wrong with an expression -/

theorem any_isOperator {o : Option Char} :
    o.any isOperator = false ↔ ∀ c ∈ o, c ∉ ['/', ',', '-'] := by
  cases o with
  | none => simp
  | some c => simp [isOperator, and_assoc]

theorem fieldFlaw_eq_none {field : String} : fieldFlaw field = none ↔ IsField field := by
  have hchars : field.toList.all isFieldChar = true ↔ ∀ c ∈ field.toList, IsFieldChar c := by
    simp only [List.all_eq_true, isFieldChar_iff]
  have hfield : IsField field ↔ field.toList.all isFieldChar = true ∧
      field.toList.head?.any isOperator = false ∧ field.toList.getLast?.any isOperator = false := by
    rw [hchars, any_isOperator, any_isOperator]
    exact ⟨fun h => ⟨h.chars, h.head, h.last⟩, fun ⟨hc, hh, hl⟩ => ⟨hc, hh, hl⟩⟩
  rw [fieldFlaw, hfield]
  grind

theorem flaw_eq_none {fields : List String} :
    flaw fields = none ↔
      (5 ≤ fields.length ∧ fields.length ≤ 7) ∧ ∀ field ∈ fields, IsField field := by
  simp only [flaw, ← fieldFlaw_eq_none]
  split
  · case isTrue hcount =>
    refine iff_of_false (by simp) ?_
    rintro ⟨hroom, -⟩
    omega
  · case isFalse hcount =>
    rw [List.findSome?_eq_none_iff]
    exact (and_iff_right (by omega)).symm

theorem parse_eq_ok {text : String} {cron : Cron} :
    parse text = .ok cron ↔
      flaw (Text.words text) = none ∧ cron = ⟨Text.trim text, Text.words text⟩ := by
  rw [parse]
  cases flaw (Text.words text) with
  | none => simp [eq_comm]
  | some reason => simp

/-! ## Reading -/

/-- The text is read as an expression with these fields. -/
def ReadsAs (text : String) (fields : List String) : Prop :=
  ∃ cron, Cron.parse text = .ok cron ∧ cron.fields = fields

theorem IsExpression.unblank {text : String} {fields : List String} (h : IsExpression text fields) :
    ∀ field ∈ fields, ∀ c ∈ field.toList, Text.isBlank c = false :=
  fun field hfield c hc => ((h.valid field hfield).chars c hc).isBlank

/-- An expression is read with its fields. -/
theorem IsExpression.parse {text : String} {fields : List String} (h : IsExpression text fields) :
    Cron.parse text = .ok ⟨Text.trim text, fields⟩ := by
  have hwords := h.made.words_eq h.unblank
  rw [parse_eq_ok, hwords]
  exact ⟨flaw_eq_none.mpr ⟨h.count, h.valid⟩, rfl⟩

theorem isExpression_iff {text : String} {fields : List String} :
    IsExpression text fields ↔ ReadsAs text fields := by
  refine ⟨fun h => ⟨_, h.parse, rfl⟩, ?_⟩
  rintro ⟨cron, hcron, rfl⟩
  obtain ⟨hflaw, rfl⟩ := parse_eq_ok.mp hcron
  obtain ⟨hcount, hvalid⟩ := flaw_eq_none.mp hflaw
  have hsome : Text.words text ≠ [] := by
    intro hnone
    simp [hnone] at hcount
  exact ⟨Text.isMadeOf_words hsome, hcount, hvalid⟩

/-- An expression is read without its outer gaps as it is with them. -/
theorem parse_core {text : String} {cron : Cron} (h : Cron.parse text = .ok cron) :
    Text.IsCoreOf cron.source text ∧ Cron.parse cron.source = .ok cron := by
  obtain ⟨hflaw, rfl⟩ := parse_eq_ok.mp h
  have hcore := Text.isCoreOf_trim text
  refine ⟨hcore, parse_eq_ok.mpr ?_⟩
  rw [hcore.words_eq, hcore.trim_eq]
  exact ⟨hflaw, rfl⟩

end Cron

/-- A text is read as a cron expression just where the grammar has it, with the fields that it is
made of, and what is kept as its source is the text without its outer gaps. The source is read as
the same expression again, and the fields are read again whatever the gaps between them are. -/
theorem a_cron_expression_is_read_just_by_its_grammar (text : String) :
    (∀ fields, Cron.IsExpression text fields ↔ Cron.ReadsAs text fields) ∧
    ∀ cron, Cron.parse text = .ok cron →
      Text.IsCoreOf cron.source text ∧ Cron.parse cron.source = .ok cron ∧
      (∀ other, Text.IsMadeOf other cron.fields → Cron.ReadsAs other cron.fields) ∧
      ∀ gap, gap ≠ "" → Text.IsGap gap →
        Cron.ReadsAs (Text.join gap cron.fields) cron.fields := by
  refine ⟨fun fields => Cron.isExpression_iff, fun cron hcron => ?_⟩
  obtain ⟨hcore, hagain⟩ := Cron.parse_core hcron
  have hexpression := Cron.isExpression_iff.mpr ⟨cron, hcron, rfl⟩
  have hother (other : String) (h : Text.IsMadeOf other cron.fields) :
      Cron.ReadsAs other cron.fields :=
    Cron.isExpression_iff.mp ⟨h, hexpression.count, hexpression.valid⟩
  exact ⟨hcore, hagain, hother, fun gap hne hgap => hother _ (hexpression.made.join hne hgap)⟩

/-- Seven fields with gaps of different blanks, joined anew with an ideographic space. -/
theorem an_expression_with_a_year_is_read_again :
    Cron.IsExpression "\t0 0/15  10 ? *\nMON-FRI 2030,2031 "
      ["0", "0/15", "10", "?", "*", "MON-FRI", "2030,2031"] ∧
    Text.IsCoreOf "0 0/15  10 ? *\nMON-FRI 2030,2031" "\t0 0/15  10 ? *\nMON-FRI 2030,2031 " ∧
    Cron.ReadsAs "0\u30000/15\u300010\u3000?\u3000*\u3000MON-FRI\u30002030,2031"
      ["0", "0/15", "10", "?", "*", "MON-FRI", "2030,2031"] := by
  obtain ⟨hgrammar, hread⟩ :=
    a_cron_expression_is_read_just_by_its_grammar "\t0 0/15  10 ? *\nMON-FRI 2030,2031 "
  have hparse : Cron.parse "\t0 0/15  10 ? *\nMON-FRI 2030,2031 " =
      .ok ⟨"0 0/15  10 ? *\nMON-FRI 2030,2031",
        ["0", "0/15", "10", "?", "*", "MON-FRI", "2030,2031"]⟩ := rfl
  obtain ⟨hcore, -, -, hjoined⟩ := hread _ hparse
  exact ⟨(hgrammar _).mpr ⟨_, hparse, rfl⟩, hcore, hjoined "\u3000" (by decide) (by decide)⟩

end Watchtower
