-- The items of rendered modules. Beside structs and impls there are only comments, attributes,
-- imports, constants and empty lines, and what stands in a method is indented more than its first
-- line. The rosters of the items tell which structs and impls there are, and what identifiers their
-- members have.
import Watchtower.Proofs.Outcome
import Watchtower.Proofs.Text.Pieces
import Watchtower.Rendering.Files

namespace Watchtower.Rendering

/-! ## Indentation -/

/-- The line is empty or begins with so many blanks. -/
def indented (n : Nat) (line : String) : Bool :=
  (line.toList.take n).all (· == ' ')

/-- A text that is written out is indented where its characters are. -/
theorem indented_text {n : Nat} {cs : List Char} (h : (cs.take n).all (· == ' ')) :
    indented n (String.ofList cs) := by
  rwa [indented, String.toList_ofList]

/-- What begins with so many blanks is indented, whatever comes behind them. -/
theorem indented_text_append {n : Nat} {cs : List Char} (h : cs.take n = List.replicate n ' ')
    (rest : String) : indented n (String.ofList cs ++ rest) := by
  have hlength : n ≤ cs.length := by
    have htake := congrArg List.length h
    simp only [List.length_take, List.length_replicate] at htake
    omega
  unfold indented
  rw [String.toList_append, String.toList_ofList, List.take_append_of_le_length hlength, h]
  simp

theorem head?_text (c : Char) (cs : List Char) :
    (String.ofList (c :: cs)).toList.head? = some c := by
  rw [String.toList_ofList, List.head?_cons]

theorem head?_append {s : String} {c : Char} (h : s.toList.head? = some c) (rest : String) :
    (s ++ rest).toList.head? = some c := by
  rw [String.toList_append, List.head?_append, h, Option.some_or]

theorem toList_times_blank (n : Nat) :
    (Text.times n "    ").toList = List.replicate (4 * n) ' ' := by
  unfold Text.times
  induction n with
  | zero => rfl
  | succ n ih =>
    cases n with
    | zero => rfl
    | succ n =>
      rw [List.replicate_succ, Text.join_cons (by simp), String.toList_append, ih]
      simp [List.replicate_succ, Nat.mul_add]

theorem indented_line {k n : Nat} (h : k ≤ 4 * n) (text : String) : indented k (line n text) := by
  unfold indented line
  split
  · simp
  · have htake : k ≤ (List.replicate (4 * n) ' ').length := by simpa using h
    rw [String.toList_append, toList_times_blank, List.take_append_of_le_length htake]
    simp

theorem userLines_indented {k n : Nat} (h : k ≤ 4 * n) (source : String) :
    ∀ l ∈ userLines n source, indented k l := by
  intro l hl
  obtain ⟨text, -, rfl⟩ := List.mem_map.mp hl
  exact indented_line h _

mutual

/-- The lines of a statement are indented as far as the statement. -/
theorem stmtLines_indented {names : BodyNames} {k n : Nat} (h : k ≤ 4 * n) : ∀ {stmt : Stmt}
    {lines : List String}, stmtLines names n stmt = .ok lines → ∀ l ∈ lines, indented k l
  | .guarded site body, lines, hlines => by
    obtain ⟨inner, hinner, hok⟩ := bind_eq_ok.mp hlines
    cases hok
    have hdeeper : k ≤ 4 * (n + 1) := by omega
    have hbody := bodyLines_indented hdeeper hinner
    simp only [List.cons_append, List.mem_cons, List.mem_append, List.not_mem_nil, or_false]
    rintro l (rfl | hl | rfl | rfl)
    · exact indented_line h _
    · exact hbody l hl
    · exact indented_line hdeeper _
    · exact indented_line h _
  | .callSuper method, lines, hlines => by
    obtain ⟨base, -, hok⟩ := bind_eq_ok.mp hlines
    cases hok
    simpa using indented_line h _
  | .userCode origin source, lines, hlines => by
    cases hlines
    exact userLines_indented h source
  | .callSelf _, lines, hlines | .callField _ _, lines, hlines | .constructProxy _ _, lines, hlines
  | .openProbe _, lines, hlines | .getVariable _, lines, hlines | .setVariable _, lines, hlines
  | .returnField _, lines, hlines | .returnPredicate _, lines, hlines
  | .returnConst _, lines, hlines => by
    cases hlines
    simpa using indented_line h _
  | .returnIf state, lines, hlines => by
    cases hlines
    have hdeeper : k ≤ 4 * (n + 1) := by omega
    simp [indented_line h, indented_line hdeeper]
  | .startConsumer .., lines, hlines => by
    cases hlines
    have hdeeper : k ≤ 4 * (n + 1) := by omega
    simp [indented_line h, indented_line hdeeper]
  | .connectStore .., lines, hlines | .registerVariable .., lines, hlines
  | .dispatchTyped .., lines, hlines | .dispatchInterval .., lines, hlines => by
    cases hlines

/-- The lines of statements are indented as far as the statements. -/
theorem bodyLines_indented {names : BodyNames} {k n : Nat} (h : k ≤ 4 * n) : ∀ {body : List Stmt}
    {lines : List String}, bodyLines names n body = .ok lines → ∀ l ∈ lines, indented k l
  | [], lines, hlines => by
    cases hlines
    simp
  | stmt :: rest, lines, hlines => by
    obtain ⟨first, hfirst, hrest⟩ := bind_eq_ok.mp hlines
    obtain ⟨others, hothers, hok⟩ := bind_eq_ok.mp hrest
    cases hok
    intro l hl
    rcases List.mem_append.mp hl with hl | hl
    · exact stmtLines_indented h hfirst l hl
    · exact bodyLines_indented h hothers l hl

end

/-! ## Items -/

/-- A field of a struct: its visibility, its identifier and what follows. -/
structure FieldItem where
  visibility : String
  ident : String
  rest : String

/-- A method of an impl: the lines above it, its visibility, its identifier, what follows, and the
lines of its body. -/
structure MethodItem where
  above : List String := []
  visibility : String := "pub "
  ident : String
  rest : String
  body : List String

/-- An item of a rendered module. -/
inductive Item where
  /-- A comment, an import, a constant or an empty line. -/
  | loose (line : String)
  /-- A struct without fields. -/
  | unit (type : String)
  | struct (type : String) (fields : List FieldItem)
  /-- The impl of a type for itself. -/
  | inherent (type : String) (methods : List MethodItem)
  /-- The impl of a trait for a type, with the lines in it. -/
  | implement (trait type : String) (inner : List String)

/-- The line of a field. -/
def FieldItem.line (f : FieldItem) : String :=
  "    " ++ f.visibility ++ f.ident ++ f.rest

/-- The lines of a method. -/
def MethodItem.lines (m : MethodItem) : List String :=
  m.above ++ ("    " ++ m.visibility ++ "fn " ++ m.ident ++ m.rest) :: m.body ++ ["    \x7d"]

/-- The lines of an item. -/
def Item.lines : Item → List String
  | loose line => [line]
  | unit type => ["pub struct " ++ type ++ ";"]
  | struct type fields =>
    ("pub struct " ++ type ++ " \x7b") :: fields.map FieldItem.line ++ ["\x7d"]
  | inherent type methods =>
    ("impl " ++ type ++ " \x7b") :: methods.flatMap MethodItem.lines ++ ["\x7d"]
  | implement trait type inner =>
    ("impl " ++ trait ++ " for " ++ type ++ " \x7b") :: inner ++ ["\x7d"]

/-- A struct with the identifiers of its fields, or an impl of a type for itself with those of its
methods. -/
inductive Roster where
  | fields (type : String) (idents : List String)
  | methods (type : String) (idents : List String)
deriving DecidableEq

/-- The identifiers of the members. -/
def Roster.idents : Roster → List String
  | fields _ idents => idents
  | methods _ idents => idents

/-- The roster of a struct, or of the impl of a type for itself. -/
def Item.roster? : Item → Option Roster
  | loose _ => none
  | unit type => some (.fields type [])
  | struct type fields => some (.fields type (fields.map (·.ident)))
  | inherent type methods => some (.methods type (methods.map (·.ident)))
  | implement .. => none

/-- What can stand before the identifier of a member. -/
def visibilities : List String := ["", "pub "]

/-- How comments, attributes, imports and constants begin. -/
def looseHeads : List String := ["//", "#!", "use ", "static "]

/-- The traits that rendered code implements. -/
def traits : List String :=
  ["std::ops::Deref", "Pausable", "MonitorEvent", "Monitor", "Predicate", "PartialEq", "Job",
    "Observer"]

def FieldItem.isSound (f : FieldItem) : Bool :=
  visibilities.contains f.visibility && f.rest.toList.head? == some ':'

def MethodItem.isSound (m : MethodItem) : Bool :=
  visibilities.contains m.visibility && m.rest.toList.head? == some '('
    && m.above.all (fun line => line.isEmpty || Text.startsWith line "    ///")
    && m.body.all (indented 8)

/-- An item hides no other: a loose line begins neither like a struct nor like an impl, and what is
not the line of a field or the first line of a method does not look like one. -/
def Item.isSound : Item → Bool
  | loose line => line.isEmpty || looseHeads.any (Text.startsWith line)
  | unit _ => true
  | struct _ fields => fields.all (·.isSound)
  | inherent _ methods => methods.all (·.isSound)
  | implement trait _ inner => traits.contains trait && inner.all (indented 4)

theorem startsWith_append {line head : String} (h : Text.startsWith line head) (rest : String) :
    Text.startsWith (line ++ rest) head := by
  unfold Text.startsWith at h ⊢
  rw [List.isPrefixOf_iff_prefix] at h ⊢
  rw [String.toList_append]
  exact h.trans (List.prefix_append _ _)

theorem loose_isSound {line head : String} (hhead : head ∈ looseHeads)
    (hline : Text.startsWith line head) : (Item.loose line).isSound := by
  rw [Item.isSound, Bool.or_eq_true, List.any_eq_true]
  exact .inr ⟨head, hhead, hline⟩

theorem comment_isSound {line : String} (h : Text.startsWith line "//") :
    (Item.loose line).isSound :=
  loose_isSound (by simp [looseHeads]) h

theorem attribute_isSound {line : String} (h : Text.startsWith line "#!") :
    (Item.loose line).isSound :=
  loose_isSound (by simp [looseHeads]) h

theorem import_isSound {line : String} (h : Text.startsWith line "use ") :
    (Item.loose line).isSound :=
  loose_isSound (by simp [looseHeads]) h

theorem constant_isSound {line : String} (h : Text.startsWith line "static ") :
    (Item.loose line).isSound :=
  loose_isSound (by simp [looseHeads]) h

theorem field_isSound {f : FieldItem} (hvisibility : f.visibility ∈ visibilities)
    (hrest : f.rest.toList.head? = some ':') : f.isSound := by
  simp [FieldItem.isSound, hvisibility, hrest]

/-- The lines are those of items with these rosters, in this order. -/
def IsLaidOut (lines : List String) (listed : List Roster) : Prop :=
  ∃ items : List Item, lines = items.flatMap Item.lines ∧ (∀ item ∈ items, item.isSound) ∧
    items.filterMap Item.roster? = listed

namespace IsLaidOut

variable {first rest lines : List String} {listed listed' : List Roster}

theorem nil : IsLaidOut [] [] := ⟨[], rfl, by simp, rfl⟩

theorem append (h : IsLaidOut first listed) (h' : IsLaidOut rest listed') :
    IsLaidOut (first ++ rest) (listed ++ listed') := by
  obtain ⟨items, rfl, hsound, rfl⟩ := h
  obtain ⟨more, rfl, hmore, rfl⟩ := h'
  refine ⟨items ++ more, List.flatMap_append.symm, ?_, List.filterMap_append⟩
  intro item hitem
  rcases List.mem_append.mp hitem with hitem | hitem
  · exact hsound item hitem
  · exact hmore item hitem

theorem item {i : Item} (hsound : i.isSound) : IsLaidOut i.lines i.roster?.toList := by
  refine ⟨[i], by simp, by simp [hsound], ?_⟩
  cases h : i.roster? with
  | none => rw [List.filterMap_cons_none h]; rfl
  | some roster => rw [List.filterMap_cons_some h]; rfl

theorem loose {line : String} (h : (Item.loose line).isSound) : IsLaidOut [line] [] :=
  item h

theorem blank : IsLaidOut [""] [] := loose rfl

theorem cons {line : String} (hline : (Item.loose line).isSound)
    (hrest : IsLaidOut rest listed) : IsLaidOut (line :: rest) listed :=
  (loose hline).append hrest

theorem of_loose (h : ∀ line ∈ lines, (Item.loose line).isSound) : IsLaidOut lines [] := by
  induction lines with
  | nil => exact nil
  | cons line rest ih =>
    exact cons (h line List.mem_cons_self) (ih fun l hl => h l (List.mem_cons_of_mem _ hl))

theorem struct {type : String} {fields : List FieldItem} (hsound : ∀ f ∈ fields, f.isSound) :
    IsLaidOut (Item.struct type fields).lines [.fields type (fields.map (·.ident))] :=
  item (List.all_eq_true.mpr hsound)

theorem inherent {type : String} {methods : List MethodItem} (hsound : ∀ m ∈ methods, m.isSound) :
    IsLaidOut (Item.inherent type methods).lines [.methods type (methods.map (·.ident))] :=
  item (List.all_eq_true.mpr hsound)

theorem inherent_singleton {type : String} {m : MethodItem} (h : m.isSound) :
    IsLaidOut (Item.inherent type [m]).lines [.methods type [m.ident]] :=
  inherent (List.forall_mem_singleton.mpr h)

theorem implement {trait type : String} {inner : List String} (htrait : trait ∈ traits)
    (hinner : ∀ line ∈ inner, indented 4 line) :
    IsLaidOut (Item.implement trait type inner).lines [] := by
  have hsound : (Item.implement trait type inner).isSound := by
    simpa [Item.isSound, htrait] using hinner
  exact item hsound

/-- Parts that are rendered one by one, each below an empty line, have their rosters one behind the
other. -/
theorem of_mapM {α ε : Type} {render : α → Except ε (List String)} {rosters : α → List Roster}
    {items : List α} {parts : List (List String)} (h : items.mapM render = .ok parts)
    (hpart : ∀ a ∈ items, ∀ lines, render a = .ok lines → IsLaidOut lines (rosters a)) :
    IsLaidOut (parts.flatMap ("" :: ·)) (items.flatMap rosters) := by
  induction items generalizing parts with
  | nil =>
    cases h
    exact nil
  | cons a rest ih =>
    rw [List.mapM_cons] at h
    obtain ⟨lines, hlines, h⟩ := bind_eq_ok.mp h
    obtain ⟨others, hothers, hok⟩ := bind_eq_ok.mp h
    cases hok
    rw [List.flatMap_cons, List.flatMap_cons]
    exact (cons rfl (hpart a List.mem_cons_self lines hlines)).append
      (ih hothers fun b hb => hpart b (List.mem_cons_of_mem _ hb))

end IsLaidOut

end Watchtower.Rendering
