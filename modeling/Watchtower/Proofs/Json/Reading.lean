-- The text of a value is read back as this value. That holds of exact values: those without
-- doubles, nested no deeper than the reader goes. Each step of the way has its own inverse: the
-- characters of a text give its tokens, the tokens its document, and the document its value. The
-- document has all that was written, also where the fields of objects stand in another order.
import Mathlib.Data.List.TakeWhile
import Watchtower.Json.Doc
import Watchtower.Json.Writer
import Watchtower.Proofs.Tables
import Watchtower.Proofs.Text.Digits

namespace Watchtower

open Text (ne_of_isDigit isDigit_toDigits head_toDigits le_ofDigitChars)

/-! ## Exact values -/

instance {α : Type} (table : List (String × α)) : Decidable (Sorted.Ascends table) :=
  inferInstanceAs (Decidable (List.Pairwise _ _))

/-- A whole number of 64 bits, with a sign or without. -/
def Number.isWord : Number → Bool
  | .int n => decide (-(Nat.pow 2 63 : Int) ≤ n) && decide (n < (wordLimit : Int))
  | .float _ => false

namespace Json

mutual

/-- The value has no doubles, the fields of its objects stand in the order of their names, and its
containers are nested at most `depth` deep. -/
def isExact (depth : Nat) : Json → Bool
  | .null => true
  | .bool _ => true
  | .num n => n.isWord
  | .str _ => true
  | .arr items =>
    match depth with
    | 0 => false
    | depth + 1 => areExact depth items
  | .obj fields =>
    match depth with
    | 0 => false
    | depth + 1 => decide (Sorted.Ascends fields) && areExactFields depth fields

/-- The items of an array are exact. -/
def areExact (depth : Nat) : List Json → Bool
  | [] => true
  | item :: rest => isExact depth item && areExact depth rest

/-- The values of the fields of an object are exact. -/
def areExactFields (depth : Nat) : List (String × Json) → Bool
  | [] => true
  | (_, value) :: rest => isExact depth value && areExactFields depth rest

end

mutual

/-- The value has no doubles. -/
def isWhole : Json → Bool
  | .null => true
  | .bool _ => true
  | .num n => n.isWord
  | .str _ => true
  | .arr items => areWhole items
  | .obj fields => areWholeFields fields

/-- The items of an array have no doubles. -/
def areWhole : List Json → Bool
  | [] => true
  | item :: rest => isWhole item && areWhole rest

/-- The values of the fields of an object have no doubles. -/
def areWholeFields : List (String × Json) → Bool
  | [] => true
  | (_, value) :: rest => isWhole value && areWholeFields rest

end

mutual

theorem isWhole_of_isExact : ∀ {depth : Nat} {v : Json}, v.isExact depth → v.isWhole
  | _, .null, _ => rfl
  | _, .bool _, _ => rfl
  | _, .num _, h => h
  | _, .str _, _ => rfl
  | 0, .arr _, h => by cases h
  | _ + 1, .arr _, h => areWhole_of_areExact h
  | 0, .obj _, h => by cases h
  | _ + 1, .obj _, h => areWholeFields_of_areExactFields (Bool.and_eq_true_iff.mp h).2

theorem areWhole_of_areExact : ∀ {depth : Nat} {items : List Json}, areExact depth items →
    areWhole items
  | _, [], _ => rfl
  | _, _ :: _, h => by
    obtain ⟨hitem, hrest⟩ := Bool.and_eq_true_iff.mp h
    exact Bool.and_eq_true_iff.mpr ⟨isWhole_of_isExact hitem, areWhole_of_areExact hrest⟩

theorem areWholeFields_of_areExactFields : ∀ {depth : Nat} {fields : List (String × Json)},
    areExactFields depth fields → areWholeFields fields
  | _, [], _ => rfl
  | _, _ :: _, h => by
    obtain ⟨hvalue, hrest⟩ := Bool.and_eq_true_iff.mp h
    exact Bool.and_eq_true_iff.mpr
      ⟨isWhole_of_isExact hvalue, areWholeFields_of_areExactFields hrest⟩

end

/-! ## The tokens and the document of a value -/

mutual

/-- The tokens of the text of a value. -/
def tokensOf : Json → List Token
  | .null => [.null]
  | .bool b => [.bool b]
  | .num n => [.num n.text]
  | .str s => [.str (some s)]
  | .arr items => .leftBracket :: itemTokens items ++ [.rightBracket]
  | .obj fields => .leftBrace :: fieldTokens fields ++ [.rightBrace]

/-- The tokens of the items of an array, with commas between them. -/
def itemTokens : List Json → List Token
  | [] => []
  | [item] => tokensOf item
  | item :: rest => tokensOf item ++ .comma :: itemTokens rest

/-- The tokens of the fields of an object, with commas between them. -/
def fieldTokens : List (String × Json) → List Token
  | [] => []
  | [(name, value)] => .str (some name) :: .colon :: tokensOf value
  | (name, value) :: rest =>
    .str (some name) :: .colon :: (tokensOf value ++ .comma :: fieldTokens rest)

end

mutual

/-- The document of the text of a value. -/
def docOf : Json → Doc
  | .null => .null
  | .bool b => .bool b
  | .num n => .num n.text
  | .str s => .str (some s)
  | .arr items => .arr (docsOf items)
  | .obj fields => .obj (docFields fields)

/-- The documents of the items of an array. -/
def docsOf : List Json → List Doc
  | [] => []
  | item :: rest => docOf item :: docsOf rest

/-- The documents of the fields of an object. -/
def docFields : List (String × Json) → List (Option String × Doc)
  | [] => []
  | (name, value) :: rest => (some name, docOf value) :: docFields rest

end

/-! ## From characters to tokens -/

/-- The lexer has read these tokens, in reverse: it can stop here, and a character that ends every
token is read as if it stood between two tokens. -/
structure Lexer.HasRead (l : Lexer) (tokens : List Token) : Prop where
  finish : l.finish = some tokens
  step : ∀ c, isNumberChar c = false → c.isLower = false → l.step c = Lexer.begin tokens c

/-- The characters are read as these tokens, wherever they begin between two tokens. -/
def Spells (cs : List Char) (tokens : List Token) : Prop :=
  ∀ before, ∃ l, cs.foldlM Lexer.step ⟨.between, before⟩ = some l ∧
    l.HasRead (tokens.reverse ++ before)

theorem tokens?_of_spells {cs : List Char} {tokens : List Token} (h : Spells cs tokens) :
    tokens? cs = some tokens := by
  obtain ⟨l, hrun, hread⟩ := h []
  have hfinish := hread.finish
  simp only [List.append_nil] at hfinish
  simp [tokens?, hrun, hfinish]

theorem hasRead_between (tokens : List Token) : Lexer.HasRead ⟨.between, tokens⟩ tokens :=
  ⟨rfl, fun _ _ _ => rfl⟩

theorem spells_nil : Spells [] [] := fun before => ⟨_, rfl, hasRead_between before⟩

/-- The character is a token of its own and ends the token before it. -/
structure IsMark (c : Char) (t : Token) : Prop where
  begins : ∀ tokens, Lexer.begin tokens c = some ⟨.between, t :: tokens⟩
  ends : isNumberChar c = false ∧ c.isLower = false

theorem isMark_leftBrace : IsMark '\x7b' .leftBrace := ⟨fun _ => rfl, by decide⟩
theorem isMark_rightBrace : IsMark '\x7d' .rightBrace := ⟨fun _ => rfl, by decide⟩
theorem isMark_leftBracket : IsMark '[' .leftBracket := ⟨fun _ => rfl, by decide⟩
theorem isMark_rightBracket : IsMark ']' .rightBracket := ⟨fun _ => rfl, by decide⟩
theorem isMark_comma : IsMark ',' .comma := ⟨fun _ => rfl, by decide⟩
theorem isMark_colon : IsMark ':' .colon := ⟨fun _ => rfl, by decide⟩

/-- Two texts with a mark between them. -/
theorem Spells.join {cs ds : List Char} {left right : List Token} {c : Char} {t : Token}
    (hleft : Spells cs left) (hmark : IsMark c t) (hright : Spells ds right) :
    Spells (cs ++ c :: ds) (left ++ t :: right) := by
  intro before
  obtain ⟨l, hrun, hread⟩ := hleft before
  obtain ⟨l', hrun', hread'⟩ := hright (t :: (left.reverse ++ before))
  refine ⟨l', ?_, by simpa using hread'⟩
  have hstep : l.step c = some ⟨.between, t :: (left.reverse ++ before)⟩ := by
    rw [hread.step c hmark.ends.1 hmark.ends.2, hmark.begins]
  simp [List.foldlM_append, hrun, hstep, hrun']

/-! ### Strings -/

/-- What is read of one character of a string: most control characters stand there by number. -/
def pieceOf (c : Char) : Piece :=
  if c.toNat < 0x20 ∧ c ∉ ['\x08', '\x0c', '\n', '\r', '\t'] then .unit c.toNat else .char c

theorem hexValue?_hexDigit (n : Nat) : hexValue? (hexDigit n) = some (n % 16) := by
  have hdigits : ∀ d < 16, hexValue? (Nat.digitChar d) = some d := by decide
  exact hdigits (n % 16) (Nat.mod_lt n (by decide))

/-- A control character is written by its number in hexadecimal digits. -/
theorem foldlM_unit {n : Nat} (h : n < 0x20) (done : List Piece) (tokens : List Token) :
    ['\\', 'u', '0', '0', hexDigit (n / 16), hexDigit n].foldlM Lexer.step
      ⟨.string done, tokens⟩ = some ⟨.string (.unit n :: done), tokens⟩ := by
  have hzero : hexValue? '0' = some 0 := by decide
  have hvalue : n / 16 % 16 * 16 + n % 16 = n := by omega
  simp [Lexer.step, hexValue?_hexDigit, hzero, hvalue]

theorem foldlM_escapeChar (c : Char) (done : List Piece) (tokens : List Token) :
    (escapeChar c).foldlM Lexer.step ⟨.string done, tokens⟩ =
      some ⟨.string (pieceOf c :: done), tokens⟩ := by
  by_cases hletter : c ∈ ['"', '\\', '\x08', '\x0c', '\n', '\r', '\t']
  · simp only [List.mem_cons, List.not_mem_nil, or_false] at hletter
    rcases hletter with rfl | rfl | rfl | rfl | rfl | rfl | rfl <;> rfl
  · simp only [List.mem_cons, List.not_mem_nil, or_false, not_or] at hletter
    obtain ⟨hquote, hslash, hb, hf, hn, hr, ht⟩ := hletter
    by_cases hcontrol : c.toNat < 0x20
    · have hpiece : pieceOf c = .unit c.toNat := by simp [pieceOf, hcontrol, hb, hf, hn, hr, ht]
      have htext : escapeChar c =
          ['\\', 'u', '0', '0', hexDigit (c.toNat / 16), hexDigit c.toNat] := by
        simp [escapeChar, hquote, hslash, hb, hf, hn, hr, ht, hcontrol]
      rw [htext, hpiece, foldlM_unit hcontrol]
    · have hpiece : pieceOf c = .char c := by simp [pieceOf, hcontrol]
      have htext : escapeChar c = [c] := by
        simp [escapeChar, hquote, hslash, hb, hf, hn, hr, ht, hcontrol]
      simp [htext, hpiece, Lexer.step, hquote, hslash, hcontrol]

theorem foldlM_flatMap_escapeChar (cs : List Char) (done : List Piece) (tokens : List Token) :
    (cs.flatMap escapeChar).foldlM Lexer.step ⟨.string done, tokens⟩ =
      some ⟨.string ((cs.map pieceOf).reverse ++ done), tokens⟩ := by
  induction cs generalizing done with
  | nil => rfl
  | cons c cs ih =>
    rw [List.flatMap_cons, List.foldlM_append, foldlM_escapeChar]
    simp [ih]

/-- A control character is no part of a pair. -/
theorem piecesText?_unit {n : Nat} (h : n < 0x20) (rest : List Piece) :
    piecesText? (.unit n :: rest) = (piecesText? rest).map (Char.ofNat n :: ·) := by
  have hhigh : isHigh n = false := by simp [isHigh]; omega
  have hlow : isLow n = false := by simp [isLow]; omega
  rcases rest with _ | ⟨c | m, rest⟩
  · simp [piecesText?, hhigh, hlow]
  · simp [piecesText?, hhigh, hlow]
  · rw [piecesText?]
    simp [hhigh, hlow]

theorem piecesText?_pieceOf (cs : List Char) : piecesText? (cs.map pieceOf) = some cs := by
  induction cs with
  | nil => rfl
  | cons c cs ih =>
    rw [List.map_cons, pieceOf]
    split
    · rename_i h
      rw [piecesText?_unit h.1, ih]
      simp
    · simp [piecesText?, ih]

theorem spells_stringText (s : String) : Spells (stringText s) [.str (some s)] := by
  intro before
  refine ⟨⟨.between, .str (some s) :: before⟩, ?_, hasRead_between _⟩
  rw [stringText, List.cons_append, List.foldlM_cons]
  have hopen : Lexer.step ⟨.between, before⟩ '"' = some ⟨.string [], before⟩ := rfl
  have hclose : ∀ done, Lexer.step ⟨.string done, before⟩ '"' =
      some ⟨.between, .str ((piecesText? done.reverse).map String.ofList) :: before⟩ :=
    fun _ => rfl
  simp [hopen, hclose, List.foldlM_append, foldlM_flatMap_escapeChar, piecesText?_pieceOf]

/-! ### Numbers -/

/-- The parts of a whole number: its sign and its digits. -/
theorem parts_of_digits (negative : Bool) (n : Nat) :
    Number.Parts.ofText? ((if negative then ['-'] else []) ++ Nat.toDigits 10 n) =
      some ⟨negative, Nat.toDigits 10 n, none, none⟩ := by
  have hdigits := isDigit_toDigits n
  have htake : (Nat.toDigits 10 n).takeWhile Char.isDigit = Nat.toDigits 10 n :=
    List.takeWhile_eq_self_iff.mpr hdigits
  have hdrop : (Nat.toDigits 10 n).dropWhile Char.isDigit = [] := by
    simpa [List.dropWhile_eq_nil_iff] using hdigits
  have hempty : (Nat.toDigits 10 n).isEmpty = false := by simp [Nat.toDigits_ne_nil]
  have hzero : ((Nat.toDigits 10 n).head? == some '0' &&
      decide ((Nat.toDigits 10 n).length > 1)) = false := by
    by_cases hhead : (Nat.toDigits 10 n).head? = some '0'
    · obtain rfl := head_toDigits hhead
      rfl
    · simp [hhead]
  cases negative with
  | true => simp [Number.Parts.ofText?, htake, hdrop, hempty, hzero, Number.fractionPart,
      Number.exponentPart]
  | false =>
    -- A text that begins with a digit has no sign.
    have hunsigned : ∀ rest, Nat.toDigits 10 n ≠ '-' :: rest := by
      intro rest heq
      exact ne_of_isDigit (hdigits '-' (by simp [heq])) (d := '-') (by decide) rfl
    simp [Number.Parts.ofText?, htake, hdrop, hempty, hzero, Number.fractionPart,
      Number.exponentPart]

theorem text_int (n : Int) :
    (Number.int n).text =
      (if decide (n < 0) then ['-'] else []) ++ Nat.toDigits 10 n.natAbs := by
  simp [Number.text]

/-- Digits of a number of 64 bits are all counted. -/
theorem accumulate_of_lt (cs : List Char) (n : Nat)
    (h : Nat.ofDigitChars 10 cs n < Number.wordLimit) :
    Number.accumulate n cs = (Nat.ofDigitChars 10 cs n, 0) := by
  induction cs generalizing n with
  | nil => rfl
  | cons c cs ih =>
    have hnext : n * 10 + Number.digitValue c = 10 * n + (c.toNat - '0'.toNat) := by
      rw [Number.digitValue, Nat.mul_comm]
    have hfold : Nat.ofDigitChars 10 (c :: cs) n =
        Nat.ofDigitChars 10 cs (n * 10 + Number.digitValue c) := by
      rw [hnext]
      rfl
    rw [hfold] at h ⊢
    have hlt : n * 10 + Number.digitValue c < Number.wordLimit :=
      Nat.lt_of_le_of_lt (le_ofDigitChars cs _) h
    rw [Number.accumulate, if_pos hlt, ih _ h]

/-- The text of a whole number of 64 bits is read as this number. -/
theorem ofText?_text {n : Number} (h : n.isWord) : Number.ofText? n.text = some n := by
  cases n with
  | float bits => cases h
  | int n =>
    have hsmall : Nat.pow 2 63 = 9223372036854775808 := rfl
    have hlarge : Number.wordLimit = 18446744073709551616 := rfl
    simp only [Number.isWord, Bool.and_eq_true, decide_eq_true_eq, hsmall, hlarge] at h
    have hword : n.natAbs < Number.wordLimit := by omega
    have hvalue : Nat.ofDigitChars 10 (Nat.toDigits 10 n.natAbs) 0 = n.natAbs :=
      Nat.ofDigitChars_toDigits (by decide) (by decide)
    have hcount := accumulate_of_lt (Nat.toDigits 10 n.natAbs) 0 (by rwa [hvalue])
    rw [hvalue] at hcount
    rw [Number.ofText?, text_int, parts_of_digits, Option.bind_some, Number.Parts.number?]
    simp only [hcount]
    refine (if_pos rfl).trans ?_
    by_cases hnegative : n < 0
    · have habs : n.natAbs ≠ 0 ∧ n.natAbs ≤ 9223372036854775808 := by omega
      have hback : -(n.natAbs : Int) = n := by omega
      rw [if_neg (by simp [hnegative]), if_pos habs, hback]
    · have hback : (n.natAbs : Int) = n := by omega
      rw [if_pos (by simp [hnegative]), hback]

theorem accumulate_lt (cs : List Char) {n : Nat} (h : n < Number.wordLimit) :
    (Number.accumulate n cs).1 < Number.wordLimit := by
  induction cs generalizing n with
  | nil => exact h
  | cons c cs ih =>
    rw [Number.accumulate]
    split
    · exact ih ‹_›
    · exact h

/-- A number that is read has 64 bits, if it is whole. -/
theorem isWord_of_ofText? {cs : List Char} {n : Int} (h : Number.ofText? cs = some (.int n)) :
    (Number.int n).isWord := by
  obtain ⟨p, -, hp⟩ := Option.bind_eq_some_iff.mp h
  have hlt : (Number.accumulate 0 p.whole).1 < Number.wordLimit := accumulate_lt p.whole (by decide)
  have hsmall : Nat.pow 2 63 = 9223372036854775808 := rfl
  have hlarge : Number.wordLimit = 18446744073709551616 := rfl
  simp only [Number.Parts.number?, hsmall] at hp
  simp only [Number.isWord, Bool.and_eq_true, decide_eq_true_eq, hsmall, hlarge] at hlt ⊢
  split at hp
  · split at hp
    · cases hp
      omega
    · split at hp
      · cases hp
        omega
      · cases hp
  · obtain ⟨f, -, hf⟩ := Option.map_eq_some_iff.mp hp
    cases hf

theorem isNumberChar_of_isDigit {c : Char} (h : c.isDigit) : isNumberChar c := by
  simp [isNumberChar, h]

theorem foldlM_number (cs done : List Char) (tokens : List Token)
    (h : ∀ c ∈ cs, isNumberChar c) :
    cs.foldlM Lexer.step ⟨.number done, tokens⟩ = some ⟨.number (cs.reverse ++ done), tokens⟩ := by
  induction cs generalizing done with
  | nil => rfl
  | cons c cs ih =>
    have hstep : Lexer.step ⟨.number done, tokens⟩ c = some ⟨.number (c :: done), tokens⟩ := by
      simp [Lexer.step, h c (by simp)]
    rw [List.foldlM_cons, hstep]
    simpa using ih (c :: done) fun d hd => h d (by simp [hd])

theorem begin_number {c : Char} (h : c = '-' ∨ c.isDigit) (tokens : List Token) :
    Lexer.begin tokens c = some ⟨.number [c], tokens⟩ := by
  rcases h with rfl | hdigit
  · rfl
  · have hne := fun d => ne_of_isDigit (d := d) hdigit
    simp [Lexer.begin, isSpace, hdigit, hne ' ' (by decide), hne '\t' (by decide),
      hne '\n' (by decide), hne '\r' (by decide), hne '\x7b' (by decide),
      hne '\x7d' (by decide), hne '[' (by decide), hne ']' (by decide), hne ',' (by decide),
      hne ':' (by decide), hne '"' (by decide)]

theorem spells_number {n : Number} (h : n.isWord) : Spells n.text [.num n.text] := by
  have hread := ofText?_text h
  obtain ⟨parts, hparts, -⟩ := Option.bind_eq_some_iff.mp hread
  cases n with
  | float bits => cases h
  | int n =>
    have hchars : ∀ c ∈ (Number.int n).text, c = '-' ∨ c.isDigit := by
      intro c hc
      rw [text_int] at hc
      rcases List.mem_append.mp hc with hsign | hdigit
      · split at hsign
        · exact .inl (List.mem_singleton.mp hsign)
        · cases hsign
      · exact .inr (isDigit_toDigits _ c hdigit)
    intro before
    generalize htext : (Number.int n).text = text at hparts hchars ⊢
    cases text with
    | nil => simp [text_int, Nat.toDigits_ne_nil] at htext
    | cons c cs =>
      refine ⟨⟨.number (c :: cs).reverse, before⟩, ?_, ?_, ?_⟩
      · have hrest : ∀ d ∈ cs, isNumberChar d := by
          intro d hd
          rcases hchars d (by simp [hd]) with rfl | hdigit
          · rfl
          · exact isNumberChar_of_isDigit hdigit
        have hstep : Lexer.step ⟨.between, before⟩ c = some ⟨.number [c], before⟩ :=
          begin_number (hchars c (by simp)) before
        rw [List.foldlM_cons, hstep]
        simpa using foldlM_number cs [c] before hrest
      · simp only [Lexer.finish, List.reverse_reverse, numberToken?, hparts]
        rfl
      · intro d hd _
        simp [Lexer.step, hd, Lexer.finish, numberToken?, hparts]

/-! ### Values -/

theorem spells_null : Spells "null".toList [.null] := by
  intro before
  refine ⟨⟨.word "null".toList.reverse, before⟩, rfl, rfl, ?_⟩
  intro c hc hl
  simp [Lexer.step, hl, Lexer.finish, wordToken?]

theorem spells_bool (b : Bool) : Spells (compactList (.bool b)) [.bool b] := by
  intro before
  cases b with
  | true =>
    refine ⟨⟨.word "true".toList.reverse, before⟩, rfl, rfl, ?_⟩
    intro c hc hl
    simp [Lexer.step, hl, Lexer.finish, wordToken?]
  | false =>
    refine ⟨⟨.word "false".toList.reverse, before⟩, rfl, rfl, ?_⟩
    intro c hc hl
    simp [Lexer.step, hl, Lexer.finish, wordToken?]

mutual

/-- The compact text of a value spells its tokens. -/
theorem spells_compactList : ∀ {v : Json}, v.isWhole → Spells (compactList v) (tokensOf v)
  | .null, _ => spells_null
  | .bool b, _ => by
    have h := spells_bool b
    cases b <;> exact h
  | .num _, h => spells_number h
  | .str s, _ => spells_stringText s
  | .arr items, h => by
    have hitems : Spells (compactItems items) (itemTokens items) := spells_compactItems h
    simpa [compactList, tokensOf] using
      spells_nil.join isMark_leftBracket (hitems.join isMark_rightBracket spells_nil)
  | .obj fields, h => by
    have hfields : Spells (compactFields fields) (fieldTokens fields) := spells_compactFields h
    simpa [compactList, tokensOf] using
      spells_nil.join isMark_leftBrace (hfields.join isMark_rightBrace spells_nil)

theorem spells_compactItems : ∀ {items : List Json}, areWhole items →
    Spells (compactItems items) (itemTokens items)
  | [], _ => spells_nil
  | [item], h => by
    have hitem : isWhole item := (Bool.and_eq_true_iff.mp h).1
    simpa [compactItems, itemTokens] using spells_compactList hitem
  | item :: next :: rest, h => by
    have hboth := Bool.and_eq_true_iff.mp h
    simpa [compactItems, itemTokens] using
      (spells_compactList hboth.1).join isMark_comma (spells_compactItems hboth.2)

theorem spells_compactFields : ∀ {fields : List (String × Json)}, areWholeFields fields →
    Spells (compactFields fields) (fieldTokens fields)
  | [], _ => spells_nil
  | [(name, value)], h => by
    have hvalue : isWhole value := (Bool.and_eq_true_iff.mp h).1
    simpa [compactFields, fieldTokens] using
      (spells_stringText name).join isMark_colon (spells_compactList hvalue)
  | (name, value) :: next :: rest, h => by
    have hboth := Bool.and_eq_true_iff.mp h
    simpa [compactFields, fieldTokens] using (spells_stringText name).join isMark_colon
      ((spells_compactList hboth.1).join isMark_comma (spells_compactFields hboth.2))

end

/-! ## From tokens to documents -/

theorem head_tokensOf (v : Json) : ∃ t rest, tokensOf v = t :: rest ∧
    ∀ stack, Builder.step ⟨stack, .valueOrEnd⟩ t = Builder.step ⟨stack, .value⟩ t := by
  cases v <;> exact ⟨_, _, rfl, fun _ => rfl⟩

/-- Where an array may end as well, its first item is read as a value is elsewhere. -/
theorem foldlM_valueOrEnd {items : List Json} (hne : items ≠ []) (rest : List Token)
    (stack : List Frame) :
    (itemTokens items ++ rest).foldlM Builder.step ⟨stack, .valueOrEnd⟩ =
      (itemTokens items ++ rest).foldlM Builder.step ⟨stack, .value⟩ := by
  rcases items with _ | ⟨item, _ | ⟨next, others⟩⟩
  · exact absurd rfl hne
  all_goals
    obtain ⟨t, more, htokens, hstep⟩ := head_tokensOf item
    simp [itemTokens, htokens, hstep]

/-- Where an object may end as well, its first name is read as its other names are. -/
theorem foldlM_nameOrEnd {fields : List (String × Json)} (hne : fields ≠ []) (rest : List Token)
    (stack : List Frame) :
    (fieldTokens fields ++ rest).foldlM Builder.step ⟨stack, .nameOrEnd⟩ =
      (fieldTokens fields ++ rest).foldlM Builder.step ⟨stack, .name []⟩ := by
  rcases fields with _ | ⟨⟨name, value⟩, _ | ⟨next, others⟩⟩
  · exact absurd rfl hne
  all_goals rfl

mutual

/-- The tokens of a value are read as its document. -/
theorem foldlM_tokensOf : ∀ (v : Json) (stack : List Frame),
    (tokensOf v).foldlM Builder.step ⟨stack, .value⟩ = some ⟨stack, .more (docOf v)⟩
  | .null, _ => rfl
  | .bool _, _ => rfl
  | .num _, _ => rfl
  | .str _, _ => rfl
  | .arr items, stack => by
    have hopen : Builder.step ⟨stack, .value⟩ .leftBracket =
      some ⟨.arr [] :: stack, .valueOrEnd⟩ := rfl
    by_cases hne : items = []
    · subst hne
      rfl
    · simp only [tokensOf, List.cons_append, List.foldlM_cons, hopen, Option.bind_eq_bind,
        Option.bind_some, foldlM_valueOrEnd hne, foldlM_itemTokens items hne, docOf]
      rfl
  | .obj fields, stack => by
    have hopen : Builder.step ⟨stack, .value⟩ .leftBrace = some ⟨stack, .nameOrEnd⟩ := rfl
    by_cases hne : fields = []
    · subst hne
      rfl
    · simp only [tokensOf, List.cons_append, List.foldlM_cons, hopen, Option.bind_eq_bind,
        Option.bind_some, foldlM_nameOrEnd hne, foldlM_fieldTokens fields hne, docOf]
      rfl

/-- The items of an array are read up to its end. -/
theorem foldlM_itemTokens : ∀ (items : List Json), items ≠ [] →
    ∀ (stack : List Frame) (done : List Doc),
      (itemTokens items ++ [Token.rightBracket]).foldlM Builder.step ⟨.arr done :: stack, .value⟩ =
        some ⟨stack, .more (.arr (done.reverse ++ docsOf items))⟩
  | [], hne, _, _ => absurd rfl hne
  | [item], _, stack, done => by
    have hitem := foldlM_tokensOf item (.arr done :: stack)
    simp [itemTokens, List.foldlM_append, hitem, Builder.step, docsOf]
  | item :: next :: rest, _, stack, done => by
    have hitem := foldlM_tokensOf item (.arr done :: stack)
    have hrest := foldlM_itemTokens (next :: rest) (by simp) stack (docOf item :: done)
    have hcomma : Builder.step ⟨.arr done :: stack, .more (docOf item)⟩ .comma =
      some ⟨.arr (docOf item :: done) :: stack, .value⟩ := rfl
    have htokens : itemTokens (item :: next :: rest) =
      tokensOf item ++ .comma :: itemTokens (next :: rest) := rfl
    rw [htokens, List.append_assoc, List.foldlM_append, hitem]
    simp only [Option.bind_eq_bind, Option.bind_some, List.cons_append, List.foldlM_cons, hcomma,
      hrest]
    simp [docsOf]

/-- The fields of an object are read up to its end. -/
theorem foldlM_fieldTokens : ∀ (fields : List (String × Json)), fields ≠ [] →
    ∀ (stack : List Frame) (done : List (Option String × Doc)),
      (fieldTokens fields ++ [Token.rightBrace]).foldlM Builder.step ⟨stack, .name done⟩ =
        some ⟨stack, .more (.obj (done.reverse ++ docFields fields))⟩
  | [], hne, _, _ => absurd rfl hne
  | [(name, value)], _, stack, done => by
    have hvalue := foldlM_tokensOf value (.obj done (some name) :: stack)
    simp [fieldTokens, List.foldlM_append, hvalue, Builder.step, docFields]
  | (name, value) :: next :: rest, _, stack, done => by
    have hvalue := foldlM_tokensOf value (.obj done (some name) :: stack)
    have hrest := foldlM_fieldTokens (next :: rest) (by simp) stack
      ((some name, docOf value) :: done)
    have hname : Builder.step ⟨stack, .name done⟩ (.str (some name)) =
      some ⟨stack, .colon done (some name)⟩ := rfl
    have hcolon : Builder.step ⟨stack, .colon done (some name)⟩ .colon =
      some ⟨.obj done (some name) :: stack, .value⟩ := rfl
    have hcomma : Builder.step ⟨.obj done (some name) :: stack, .more (docOf value)⟩ .comma =
      some ⟨stack, .name ((some name, docOf value) :: done)⟩ := rfl
    simp only [fieldTokens, List.cons_append, List.append_assoc, List.foldlM_cons, hname, hcolon,
      Option.bind_eq_bind, Option.bind_some]
    rw [List.foldlM_append, hvalue]
    simp only [Option.bind_eq_bind, Option.bind_some, List.foldlM_cons, hcomma, hrest]
    simp [docFields]

end

theorem ofTokens?_tokensOf (v : Json) : Doc.ofTokens? (tokensOf v) = some (docOf v) := by
  simp only [Doc.ofTokens?, foldlM_tokensOf]

/-! ## From documents to values -/

mutual

/-- The document of an exact value has this value. -/
theorem value?_docOf : ∀ {depth : Nat} {v : Json}, v.isExact depth →
    Doc.value? depth (docOf v) = some v
  | _, .null, _ => rfl
  | _, .bool _, _ => rfl
  | _, .num n, h => by simp [docOf, Doc.value?, ofText?_text h]
  | _, .str _, _ => rfl
  | 0, .arr _, h => by cases h
  | depth + 1, .arr items, h => by
    have hitems : Doc.values? depth (docsOf items) = some items := values?_docsOf h
    simp [docOf, Doc.value?, hitems]
  | 0, .obj _, h => by cases h
  | depth + 1, .obj fields, h => by
    obtain ⟨hsorted, hexact⟩ := Bool.and_eq_true_iff.mp h
    have hfields : Doc.fieldValues? depth (docFields fields) = some fields :=
      fieldValues?_docFields hexact
    simp [docOf, Doc.value?, hfields, sortedObj,
      Sorted.ofList_of_ascends (of_decide_eq_true hsorted)]

theorem values?_docsOf : ∀ {depth : Nat} {items : List Json}, areExact depth items →
    Doc.values? depth (docsOf items) = some items
  | _, [], _ => rfl
  | _, item :: rest, h => by
    obtain ⟨hitem, hrest⟩ := Bool.and_eq_true_iff.mp h
    simp [docsOf, Doc.values?, value?_docOf hitem, values?_docsOf hrest]

theorem fieldValues?_docFields : ∀ {depth : Nat} {fields : List (String × Json)},
    areExactFields depth fields → Doc.fieldValues? depth (docFields fields) = some fields
  | _, [], _ => rfl
  | _, (name, value) :: rest, h => by
    obtain ⟨hvalue, hrest⟩ := Bool.and_eq_true_iff.mp h
    simp [docFields, Doc.fieldValues?, value?_docOf hvalue, fieldValues?_docFields hrest]

end

/-- A text that spells the tokens of a value is read as the document of the value. -/
theorem ofText?_of_spells {cs : List Char} {v : Json} (h : Spells cs (tokensOf v)) :
    Doc.ofText? (String.ofList cs) = some (docOf v) := by
  simp [Doc.ofText?, tokens?_of_spells h, ofTokens?_tokensOf]

/-- The compact text of an exact value is read as this value. -/
theorem ofText_compact {v : Json} (h : v.isExact maxDepth) : ofText v.compact = some v := by
  have hdoc : Doc.ofText? v.compact = some (docOf v) :=
    ofText?_of_spells (spells_compactList (isWhole_of_isExact h))
  rw [ofText, hdoc, Option.bind_some, value?_docOf h]

end Json

end Watchtower
