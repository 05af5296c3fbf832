-- Records and choices are read back as they were written. The reader looks for fields by their
-- names, and passes over the tag of a choice, so what it finds are the fields that were written.
import Watchtower.Json.Record
import Watchtower.Proofs.Json.Spread

namespace Watchtower

/-- A count of 64 bits is a word. -/
theorem Number.isWord_ofNat {n : Nat} (h : n < wordLimit) : (Number.int n).isWord := by
  have hlarge : wordLimit = 18446744073709551616 := rfl
  have hsmall : Nat.pow 2 63 = 9223372036854775808 := rfl
  simp only [Number.isWord, Bool.and_eq_true, decide_eq_true_eq, hlarge, hsmall] at h ⊢
  omega

namespace Json

/-! ## Nesting -/

mutual

/-- How deep containers are nested in a value. -/
def depth : Json → Nat
  | .null => 0
  | .bool _ => 0
  | .num _ => 0
  | .str _ => 0
  | .arr items => itemsDepth items + 1
  | .obj fields => fieldsDepth fields + 1

/-- How deep containers are nested in the items of an array. -/
def itemsDepth : List Json → Nat
  | [] => 0
  | item :: rest => max (depth item) (itemsDepth rest)

/-- How deep containers are nested in the values of the fields of an object. -/
def fieldsDepth : List (String × Json) → Nat
  | [] => 0
  | (_, value) :: rest => max (depth value) (fieldsDepth rest)

end

theorem itemsDepth_le_iff {items : List Json} {n : Nat} :
    itemsDepth items ≤ n ↔ ∀ item ∈ items, item.depth ≤ n := by
  induction items with
  | nil => simp [itemsDepth]
  | cons item rest ih => rw [itemsDepth, Nat.max_le, ih, List.forall_mem_cons]

theorem areWhole_iff {items : List Json} : areWhole items ↔ ∀ item ∈ items, item.isWhole := by
  induction items with
  | nil => simp [areWhole]
  | cons item rest ih => simp [areWhole, ih]

theorem areWholeFields_iff {fields : List (String × Json)} :
    areWholeFields fields ↔ ∀ field ∈ fields, field.2.isWhole := by
  induction fields with
  | nil => simp [areWholeFields]
  | cons field rest ih =>
    obtain ⟨name, value⟩ := field
    simp [areWholeFields, ih]

theorem areWhole_map {α : Type} {form : α → Json} {items : List α}
    (h : ∀ a ∈ items, (form a).isWhole) : areWhole (items.map form) := by
  rw [areWhole_iff, List.forall_mem_map]
  exact h

theorem isWhole_ofNat {n : Nat} (h : n < Number.wordLimit) : (Json.ofNat n).isWhole := by
  simp [Json.ofNat, Json.ofInt, isWhole, Number.isWord_ofNat h]

theorem isWhole_ofText? (s : Option String) : (Json.ofText? s).isWhole := by
  cases s <;> rfl

theorem isWhole_ofTexts (texts : List String) : (Json.ofTexts texts).isWhole :=
  areWhole_map fun _ _ => rfl

mutual

/-- The document of a value without doubles has a value, if it is not nested too deep. -/
theorem value?_isSome : ∀ {n : Nat} {v : Json}, v.isWhole → v.depth ≤ n →
    (Doc.value? n (docOf v)).isSome
  | _, .null, _, _ => rfl
  | _, .bool _, _, _ => rfl
  | _, .num number, h, _ => by simp [docOf, Doc.value?, ofText?_text h]
  | _, .str _, _, _ => rfl
  | 0, .arr _, _, hdepth => by simp [depth] at hdepth
  | n + 1, .arr items, h, hdepth => by
    have hitems : (Doc.values? n (docsOf items)).isSome :=
      values?_isSome h (Nat.le_of_succ_le_succ hdepth)
    simpa [docOf, Doc.value?] using hitems
  | 0, .obj _, _, hdepth => by simp [depth] at hdepth
  | n + 1, .obj fields, h, hdepth => by
    have hfields : (Doc.fieldValues? n (docFields fields)).isSome :=
      fieldValues?_isSome h (Nat.le_of_succ_le_succ hdepth)
    simpa [docOf, Doc.value?] using hfields

theorem values?_isSome : ∀ {n : Nat} {items : List Json}, areWhole items → itemsDepth items ≤ n →
    (Doc.values? n (docsOf items)).isSome
  | _, [], _, _ => rfl
  | n, item :: rest, h, hdepth => by
    obtain ⟨hitem, hrest⟩ := Bool.and_eq_true_iff.mp h
    obtain ⟨hdepth', hdepths⟩ := Nat.max_le.mp hdepth
    obtain ⟨v, hv⟩ := Option.isSome_iff_exists.mp (value?_isSome hitem hdepth')
    obtain ⟨vs, hvs⟩ := Option.isSome_iff_exists.mp (values?_isSome hrest hdepths)
    simp [docsOf, Doc.values?, hv, hvs]

theorem fieldValues?_isSome : ∀ {n : Nat} {fields : List (String × Json)}, areWholeFields fields →
    fieldsDepth fields ≤ n → (Doc.fieldValues? n (docFields fields)).isSome
  | _, [], _, _ => rfl
  | n, (name, value) :: rest, h, hdepth => by
    obtain ⟨hvalue, hrest⟩ := Bool.and_eq_true_iff.mp h
    obtain ⟨hdepth', hdepths⟩ := Nat.max_le.mp hdepth
    obtain ⟨v, hv⟩ := Option.isSome_iff_exists.mp (value?_isSome hvalue hdepth')
    obtain ⟨vs, hvs⟩ := Option.isSome_iff_exists.mp (fieldValues?_isSome hrest hdepths)
    simp [docFields, Doc.fieldValues?, hv, hvs]

end

theorem isSound_docOf {n : Nat} {v : Json} (h : v.isWhole) (hdepth : v.depth ≤ n) :
    (docOf v).isSound n :=
  value?_isSome h hdepth

namespace Doc

/-! ## Plain values -/

@[simp] theorem text?_docOf (s : String) : text? (docOf (.str s)) = some s := rfl

@[simp] theorem bool?_docOf (b : Bool) : bool? (docOf (.bool b)) = some b := rfl

/-- A count of 64 bits is read back. -/
theorem word?_docOf {n : Nat} (h : n < Number.wordLimit) : word? (docOf (.ofNat n)) = some n := by
  simp [Json.ofNat, Json.ofInt, docOf, word?, ofText?_text (Number.isWord_ofNat h)]

/-- Items are read back where each of them is. -/
theorem list?_docOf {α : Type} {read : Doc → Option α} {form : α → Json} {items : List α}
    (h : ∀ a ∈ items, read (docOf (form a)) = some a) :
    list? read (docOf (.arr (items.map form))) = some items := by
  have hitems : (docsOf (items.map form)).mapM read = some items := by
    induction items with
    | nil => rfl
    | cons a rest ih =>
      have hrest := ih fun b hb => h b (List.mem_cons_of_mem _ hb)
      simp [docsOf, h a List.mem_cons_self, hrest]
  simpa [docOf, list?] using hitems

@[simp] theorem nullable?_null {α : Type} (read : Doc → Option α) :
    nullable? read (docOf .null) = some none := rfl

/-- An optional text is read back. -/
@[simp] theorem nullable?_ofText? (s : Option String) :
    nullable? text? (docOf (.ofText? s)) = some s := by
  cases s <;> rfl

/-- What is read of a document other than null is read where null may stand. -/
theorem nullable?_of_read {α : Type} {read : Doc → Option α} (hnull : read .null = none)
    {doc : Doc} {a : α} (h : read doc = some a) : nullable? read doc = some (some a) := by
  cases doc with
  | null =>
    rw [hnull] at h
    cases h
  | _ => simp [nullable?, h]

/-- An optional value is read back. -/
theorem nullable?_docOf {α : Type} {read : Doc → Option α} {form : α → Json}
    (hnull : read .null = none) {value : Option α}
    (h : ∀ a ∈ value, read (docOf (form a)) = some a) :
    nullable? read (docOf ((value.map form).getD .null)) = some value := by
  cases value with
  | none => rfl
  | some a => exact nullable?_of_read hnull (h a rfl)

/-! ## Records -/

/-- A reader goes on where what it asks for holds. -/
theorem guard_eq_some {b : Bool} (h : b = true) : (guard (b = true) : Option Unit) = some () :=
  if_pos h

/-- The fields of a record as they are read back. -/
def written (fields : List (String × Json)) : Fields :=
  fields.map fun field => (field.1, docOf field.2)

theorem lookup_written (fields : List (String × Json)) (name : String) :
    (written fields).lookup name = (fields.lookup name).map docOf := by
  induction fields with
  | nil => rfl
  | cons field rest ih =>
    obtain ⟨key, value⟩ := field
    rw [written, List.map_cons, List.lookup_cons, List.lookup_cons]
    cases name == key with
    | true => rfl
    | false => exact ih

section Fields

variable {α : Type} (fields : List (String × Json)) (name : String) (read : Doc → Option α)

@[simp] theorem get?_written : (written fields).get? name read =
    (fields.lookup name).bind fun v => read (docOf v) := by
  rw [Fields.get?, lookup_written, Option.bind_map]
  rfl

@[simp] theorem getD?_written (default : α) : (written fields).getD? name default read =
    match fields.lookup name with
    | none => some default
    | some v => read (docOf v) := by
  rw [Fields.getD?, lookup_written]
  cases fields.lookup name <;> rfl

@[simp] theorem opt?_written : (written fields).opt? name read =
    match fields.lookup name with
    | none => some none
    | some v => nullable? read (docOf v) := by
  rw [Fields.opt?, getD?_written]

end Fields

/-- A field that was written where there is a value is read back. -/
theorem opt?_of_lookup {α : Type} {fields : List (String × Json)} {name : String}
    {read : Doc → Option α} {form : α → Json} {value : Option α}
    (hfield : fields.lookup name = value.map form) (hnull : read .null = none)
    (h : ∀ a ∈ value, read (docOf (form a)) = some a) :
    (written fields).opt? name read = some value := by
  rw [opt?_written, hfield]
  cases value with
  | none => rfl
  | some a => exact nullable?_of_read hnull (h a rfl)

/-- These fields of a record stand there once each and are known. -/
structure AreKnown (names : List String) (fields : List (String × Json)) : Prop where
  known : ∀ name ∈ fields.map (·.1), name ∈ names
  nodup : (fields.map (·.1)).Nodup

/-- Fields in the order of the known names are known, also where some are left out. -/
theorem AreKnown.of_sublist {names : List String} {fields : List (String × Json)}
    (h : (fields.map (·.1)).Sublist names) (hnodup : names.Nodup) : AreKnown names fields :=
  ⟨fun _ hname => h.subset hname, hnodup.sublist h⟩

theorem knownFields?_docFields {names : List String} {fields : List (String × Json)}
    (h : AreKnown names fields) :
    knownFields? names (docFields fields) = some (written fields) := by
  induction fields with
  | nil => rfl
  | cons field rest ih =>
    obtain ⟨name, value⟩ := field
    obtain ⟨hknown, hnodup⟩ := h
    rw [List.map_cons, List.nodup_cons] at hnodup
    rw [List.map_cons, List.forall_mem_cons] at hknown
    have hnew : (written rest).lookup name = none := by
      rw [lookup_written, Option.map_eq_none_iff, List.lookup_eq_none_iff]
      intro other hother
      rw [bne_iff_ne]
      rintro rfl
      exact hnodup.1 (List.mem_map.mpr ⟨other, hother, rfl⟩)
    rw [docFields, knownFields?, ih ⟨hknown.2, hnodup.2⟩]
    simp only [Option.bind_eq_bind, Option.bind_some, List.contains_iff_mem.mpr hknown.1, hnew,
      Option.isSome_none, if_true, Bool.false_eq_true, if_false]
    rfl

/-- A record is read back. -/
theorem record?_docOf {names : List String} {fields : List (String × Json)}
    (h : AreKnown names fields) : record? names (docOf (.obj fields)) = some (written fields) :=
  knownFields?_docFields h

/-! ## Choices -/

/-- Where no field has the name of the tag, nothing is cut. -/
theorem cutTag?_docFields {tagName : String} {fields : List (String × Json)}
    (h : tagName ∉ fields.map (·.1)) :
    cutTag? tagName (docFields fields) = some (none, docFields fields) := by
  induction fields with
  | nil => rfl
  | cons field rest ih =>
    obtain ⟨name, value⟩ := field
    rw [List.map_cons, List.mem_cons, not_or] at h
    simp [docFields, cutTag?, ih h.2, Ne.symm h.1]

/-- A choice is read back: its tag, and the fields of its record. -/
theorem choice?_docOf {byIndex : Bool} {variants : List (String × List String)} {tag : String}
    {names : List String} {fields : List (String × Json)} (htag : variants.lookup tag = some names)
    (hkind : "kind" ∉ fields.map (·.1)) (h : AreKnown names fields) :
    choice? byIndex variants (docOf (.obj (("kind", .str tag) :: fields))) =
      some (tag, written fields) := by
  have hmem : tag ∈ variants.map (·.1) := List.mem_map_of_mem (mem_of_lookup htag)
  have hcontains : (variants.map (·.1)).contains tag = true := List.contains_iff_mem.mpr hmem
  have hcut : cutTag? "kind" ((some "kind", .str (some tag)) :: docFields fields) =
      some (some (.str (some tag)), docFields fields) := by
    simp [cutTag?, cutTag?_docFields hkind]
  have hread : tag? byIndex (variants.map (·.1)) (.str (some tag)) = some tag := by
    simp only [tag?, hcontains, if_true]
  simp only [docOf, docFields, choice?, hcut, hread, htag, knownFields?_docFields h,
    Option.bind_eq_bind, Option.bind_some, Option.getD_some]
  rfl

end Doc

end Json

end Watchtower
