-- The tokens of JSON text. The text is read character by character, so what is read of a
-- text followed by another is what is read of the one and then of the other.
import Watchtower.Json.Number

namespace Watchtower.Json

/-- A token. A number keeps its text. A string is missing when its escapes make no text, as a
lone surrogate does. -/
inductive Token where
  | leftBrace
  | rightBrace
  | leftBracket
  | rightBracket
  | comma
  | colon
  | null
  | bool (value : Bool)
  | num (text : List Char)
  | str (text : Option String)

/-! ## Strings -/

/-- A piece of a string: a character as it stands, or a unit of sixteen bits given by its
number. -/
inductive Piece where
  | char (c : Char)
  | unit (n : Nat)

/-- The unit begins a pair. -/
def isHigh (n : Nat) : Bool := 0xd800 ≤ n && n < 0xdc00

/-- The unit ends a pair. -/
def isLow (n : Nat) : Bool := 0xdc00 ≤ n && n < 0xe000

/-- The character of a pair of units. -/
def pairChar (high low : Nat) : Char :=
  Char.ofNat (0x10000 + (high - 0xd800) * 0x400 + (low - 0xdc00))

/-- The text of the pieces. Units above sixteen bits of text come in pairs. -/
def piecesText? : List Piece → Option (List Char)
  | [] => some []
  | .char c :: rest => (piecesText? rest).map (c :: ·)
  | .unit n :: .unit m :: rest =>
    if isHigh n && isLow m then (piecesText? rest).map (pairChar n m :: ·)
    else if isHigh n || isLow n then none
    else (piecesText? (.unit m :: rest)).map (Char.ofNat n :: ·)
  | .unit n :: rest =>
    if isHigh n || isLow n then none else (piecesText? rest).map (Char.ofNat n :: ·)

/-- The value of a hexadecimal digit of either case. -/
def hexValue? (c : Char) : Option Nat :=
  if '0' ≤ c ∧ c ≤ '9' then some (c.toNat - '0'.toNat)
  else if 'a' ≤ c ∧ c ≤ 'f' then some (c.toNat - 'a'.toNat + 10)
  else if 'A' ≤ c ∧ c ≤ 'F' then some (c.toNat - 'A'.toNat + 10)
  else none

/-- The character of a one-letter escape. -/
def escaped? (c : Char) : Option Char :=
  if c = '"' ∨ c = '\\' ∨ c = '/' then some c
  else if c = 'b' then some '\x08'
  else if c = 'f' then some '\x0c'
  else if c = 'n' then some '\n'
  else if c = 'r' then some '\r'
  else if c = 't' then some '\t'
  else none

/-! ## The machine -/

/-- Where the reading stands. What was read of the token at hand is kept in reverse. -/
inductive Lexing where
  | between
  | number (done : List Char)
  | word (done : List Char)
  | string (done : List Piece)
  | escape (done : List Piece)
  | unit (done : List Piece) (left value : Nat)

/-- The token of a word. -/
def wordToken? (word : List Char) : Option Token :=
  if word = "null".toList then some .null
  else if word = "true".toList then some (.bool true)
  else if word = "false".toList then some (.bool false)
  else none

/-- The token of a number. -/
def numberToken? (text : List Char) : Option Token :=
  (Number.Parts.ofText? text).map fun _ => .num text

/-- A character that can stand in a number. -/
def isNumberChar (c : Char) : Bool :=
  c.isDigit || c == '-' || c == '+' || c == '.' || c == 'e' || c == 'E'

/-- A character between tokens. -/
def isSpace (c : Char) : Bool :=
  c == ' ' || c == '\t' || c == '\n' || c == '\r'

/-- The machine: where it stands, and the tokens read so far in reverse. -/
structure Lexer where
  state : Lexing := .between
  tokens : List Token := []

/-- Reads a character between two tokens. -/
def Lexer.begin (tokens : List Token) (c : Char) : Option Lexer :=
  if isSpace c then some ⟨.between, tokens⟩
  else if c = '\x7b' then some ⟨.between, .leftBrace :: tokens⟩
  else if c = '\x7d' then some ⟨.between, .rightBrace :: tokens⟩
  else if c = '[' then some ⟨.between, .leftBracket :: tokens⟩
  else if c = ']' then some ⟨.between, .rightBracket :: tokens⟩
  else if c = ',' then some ⟨.between, .comma :: tokens⟩
  else if c = ':' then some ⟨.between, .colon :: tokens⟩
  else if c = '"' then some ⟨.string [], tokens⟩
  else if c = '-' ∨ c.isDigit then some ⟨.number [c], tokens⟩
  else if c.isLower then some ⟨.word [c], tokens⟩
  else none

/-- Ends the token at hand before a character that does not belong to it. -/
def Lexer.finish (l : Lexer) : Option (List Token) :=
  match l.state with
  | .between => some l.tokens
  | .number done => (numberToken? done.reverse).map (· :: l.tokens)
  | .word done => (wordToken? done.reverse).map (· :: l.tokens)
  | _ => none

/-- Reads one character. -/
def Lexer.step (l : Lexer) (c : Char) : Option Lexer :=
  match l.state with
  | .between => Lexer.begin l.tokens c
  | .number done =>
    if isNumberChar c then some ⟨.number (c :: done), l.tokens⟩
    else l.finish.bind (Lexer.begin · c)
  | .word done =>
    if c.isLower then some ⟨.word (c :: done), l.tokens⟩
    else l.finish.bind (Lexer.begin · c)
  | .string done =>
    if c = '"' then
      some ⟨.between, .str ((piecesText? done.reverse).map String.ofList) :: l.tokens⟩
    else if c = '\\' then some ⟨.escape done, l.tokens⟩
    else if c.toNat < 0x20 then none
    else some ⟨.string (.char c :: done), l.tokens⟩
  | .escape done =>
    if c = 'u' then some ⟨.unit done 3 0, l.tokens⟩
    else (escaped? c).map fun c => ⟨.string (.char c :: done), l.tokens⟩
  | .unit done left value =>
    (hexValue? c).map fun digit =>
      match left with
      | 0 => ⟨.string (.unit (value * 16 + digit) :: done), l.tokens⟩
      | left + 1 => ⟨.unit done left (value * 16 + digit), l.tokens⟩

/-- The tokens of a text. -/
def tokens? (cs : List Char) : Option (List Token) := do
  let l ← cs.foldlM Lexer.step {}
  let tokens ← l.finish
  return tokens.reverse

end Watchtower.Json
