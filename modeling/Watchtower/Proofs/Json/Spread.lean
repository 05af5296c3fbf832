-- The text of a value spread over lines. It has the tokens of the compact text, since the blanks
-- between tokens are passed over, so it is read as the same document.
import Watchtower.Proofs.Json.Reading

namespace Watchtower.Json

/-! ## Blanks -/

theorem isSpace_cases {c : Char} (h : isSpace c) : c = ' ' ∨ c = '\t' ∨ c = '\n' ∨ c = '\r' := by
  simpa [isSpace, or_assoc] using h

/-- A blank ends the token before it, and is no token. -/
theorem isSpace_ends {c : Char} (h : isSpace c) : isNumberChar c = false ∧ c.isLower = false := by
  rcases isSpace_cases h with rfl | rfl | rfl | rfl <;> decide

theorem begin_space {c : Char} (h : isSpace c) (tokens : List Token) :
    Lexer.begin tokens c = some ⟨.between, tokens⟩ := by
  simp [Lexer.begin, h]

theorem foldlM_blanks {blanks : List Char} (h : ∀ c ∈ blanks, isSpace c) (tokens : List Token) :
    blanks.foldlM Lexer.step ⟨.between, tokens⟩ = some ⟨.between, tokens⟩ := by
  induction blanks with
  | nil => rfl
  | cons c rest ih =>
    have hstep : Lexer.step ⟨.between, tokens⟩ c = some ⟨.between, tokens⟩ :=
      begin_space (h c List.mem_cons_self) tokens
    rw [List.foldlM_cons, hstep]
    exact ih fun d hd => h d (List.mem_cons_of_mem _ hd)

/-- Blanks before a text do not matter. -/
theorem Spells.after_blanks {blanks cs : List Char} {tokens : List Token}
    (hblanks : ∀ c ∈ blanks, isSpace c) (h : Spells cs tokens) : Spells (blanks ++ cs) tokens := by
  intro before
  obtain ⟨l, hrun, hread⟩ := h before
  refine ⟨l, ?_, hread⟩
  rw [List.foldlM_append, foldlM_blanks hblanks]
  exact hrun

/-- Blanks behind a text do not matter. -/
theorem Spells.before_blanks {cs blanks : List Char} {tokens : List Token} (h : Spells cs tokens)
    (hblanks : ∀ c ∈ blanks, isSpace c) : Spells (cs ++ blanks) tokens := by
  intro before
  obtain ⟨l, hrun, hread⟩ := h before
  cases blanks with
  | nil => exact ⟨l, by simpa using hrun, hread⟩
  | cons c rest =>
    -- The first blank ends the last token, and then the lexer stands between two tokens.
    have hspace := hblanks c List.mem_cons_self
    obtain ⟨hnumber, hlower⟩ := isSpace_ends hspace
    have hstep : l.step c = some ⟨.between, tokens.reverse ++ before⟩ := by
      rw [hread.step c hnumber hlower, begin_space hspace]
    refine ⟨⟨.between, tokens.reverse ++ before⟩, ?_, hasRead_between _⟩
    rw [List.foldlM_append, hrun]
    simp only [Option.bind_eq_bind, Option.bind_some, List.foldlM_cons, hstep]
    exact foldlM_blanks (fun d hd => hblanks d (List.mem_cons_of_mem _ hd)) _

theorem space_blank : ∀ c ∈ [' '], isSpace c := by
  intro c hc
  rw [List.mem_singleton.mp hc]
  rfl

theorem newline_blank (level : Nat) : ∀ c ∈ newline level, isSpace c := by
  intro c hc
  rcases List.mem_cons.mp hc with rfl | hblank
  · rfl
  · rw [List.eq_of_mem_replicate hblank]
    rfl

/-! ## Values -/

mutual

/-- The spread text of a value spells its tokens. -/
theorem spells_prettyList : ∀ {v : Json} (level : Nat), v.isWhole →
    Spells (prettyList level v) (tokensOf v)
  | .null, _, _ => by
    rw [prettyList]
    exact spells_null
  | .bool b, _, _ => by
    have h := spells_bool b
    cases b <;> simpa only [prettyList, tokensOf, compactList] using h
  | .num _, _, h => by
    rw [prettyList]
    exact spells_number h
  | .str s, _, _ => by
    rw [prettyList]
    exact spells_stringText s
  | .arr [], _, _ => by
    simpa [prettyList, tokensOf, itemTokens] using
      spells_nil.join isMark_leftBracket (spells_nil.join isMark_rightBracket spells_nil)
  | .arr (item :: items), level, h => by
    have hitems := (spells_prettyItems (level + 1) h).before_blanks (newline_blank level)
    simpa [prettyList, tokensOf] using
      spells_nil.join isMark_leftBracket (hitems.join isMark_rightBracket spells_nil)
  | .obj [], _, _ => by
    simpa [prettyList, tokensOf, fieldTokens] using
      spells_nil.join isMark_leftBrace (spells_nil.join isMark_rightBrace spells_nil)
  | .obj (field :: fields), level, h => by
    have hfields := (spells_prettyFields (level + 1) h).before_blanks (newline_blank level)
    simpa [prettyList, tokensOf] using
      spells_nil.join isMark_leftBrace (hfields.join isMark_rightBrace spells_nil)

theorem spells_prettyItems : ∀ {items : List Json} (level : Nat), areWhole items →
    Spells (prettyItems level items) (itemTokens items)
  | [], _, _ => spells_nil
  | [item], level, h => by
    have hitem : isWhole item := (Bool.and_eq_true_iff.mp h).1
    rw [prettyItems, itemTokens]
    exact (spells_prettyList level hitem).after_blanks (newline_blank level)
  | item :: next :: rest, level, h => by
    obtain ⟨hitem, hrest⟩ := Bool.and_eq_true_iff.mp h
    have hfirst := (spells_prettyList level hitem).after_blanks (newline_blank level)
    simpa [prettyItems, itemTokens] using
      hfirst.join isMark_comma (spells_prettyItems level hrest)

theorem spells_prettyFields : ∀ {fields : List (String × Json)} (level : Nat),
    areWholeFields fields → Spells (prettyFields level fields) (fieldTokens fields)
  | [], _, _ => spells_nil
  | [(name, value)], level, h => by
    have hvalue : isWhole value := (Bool.and_eq_true_iff.mp h).1
    have hname := (spells_stringText name).after_blanks (newline_blank level)
    have hblank := (spells_prettyList level hvalue).after_blanks space_blank
    simpa [prettyFields, fieldTokens] using hname.join isMark_colon hblank
  | (name, value) :: next :: rest, level, h => by
    obtain ⟨hvalue, hrest⟩ := Bool.and_eq_true_iff.mp h
    have hname := (spells_stringText name).after_blanks (newline_blank level)
    have hblank := (spells_prettyList level hvalue).after_blanks space_blank
    simpa [prettyFields, fieldTokens] using
      hname.join isMark_colon (hblank.join isMark_comma (spells_prettyFields level hrest))

end

/-- Both texts of a value without doubles are read as the document of the value. -/
theorem ofText?_text_of_isWhole {v : Json} (h : v.isWhole) :
    ∀ text ∈ [v.compact, v.pretty], Doc.ofText? text = some (docOf v) := by
  intro text htext
  simp only [List.mem_cons, List.not_mem_nil, or_false] at htext
  rcases htext with rfl | rfl
  · exact ofText?_of_spells (spells_compactList h)
  · exact ofText?_of_spells (spells_prettyList 0 h)

end Watchtower.Json
