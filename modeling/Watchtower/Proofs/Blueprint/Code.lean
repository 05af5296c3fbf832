-- The code blocks of lowered monitors. They are numbered in the order of their statements, the
-- constructor calls them in this order, and each call finds the block with its number: no member
-- that passes the checks has the name of a code block.
import Watchtower.Proofs.Blueprint.Monitor
import Watchtower.Proofs.Predicate.Lowering

namespace Watchtower

open Source (MonitorItem)

/-- The statement is a code block. -/
def isCode : MonitorItem → Bool
  | .code _ => true
  | _ => false

/-- The number of the code blocks of a monitor. -/
def codeCount (items : List MonitorItem) : Nat := items.countP isCode

/-- The name of the method of a code block. -/
def codeName (i : Nat) : String := NameSupply.numbered "code" i

/-! ## Numbers -/

theorem ofSpecifier_issued {names names' : NameSupply} {node : Source.Specifier}
    {compiled : CompiledSpecifier}
    (h : CompiledSpecifier.ofSpecifier names node = .ok (compiled, names')) :
    names'.issued "code" = names.issued "code" := by
  induction node generalizing names names' compiled with
  | leaf relation value percentage =>
    obtain ⟨d, -, rfl, -⟩ := ofSpecifier_leaf h
    simp [NameSupply.fresh]
  | node connective left right ihl ihr =>
    obtain ⟨l, between, r, hl, hr, -⟩ := ofSpecifier_node h
    rw [ihr hr, ihl hl]

/-- Events take no numbers of code blocks. -/
theorem lowerEvent_issued {scope : MonitorScope} {names names' : NameSupply}
    {decl : Source.EventDecl} {field : Field} {type : Option Blueprint}
    (h : lowerEvent scope names decl = .ok (field, type, names')) :
    names'.issued "code" = names.issued "code" := by
  unfold lowerEvent at h
  split at h
  · cases h
    rfl
  · split at h
    · cases h
    · obtain ⟨⟨predicate, rest⟩, hpredicate, hok⟩ := bind_eq_ok.mp h
      cases hok
      unfold predicateType at hpredicate
      split at hpredicate
      · cases hpredicate
        rfl
      · obtain ⟨⟨compiled, rest⟩, hcompiled, hok⟩ := bind_eq_ok.mp hpredicate
        cases hok
        exact ofSpecifier_issued hcompiled
  · cases h
    rfl
  · cases h

/-- The code blocks among statements get the next numbers, and a method for each of these. -/
structure Numbers (items : List MonitorItem) (before after : MonitorParts) : Prop where
  issued : after.names.issued "code" = before.names.issued "code" + codeCount items
  blocks : after.blocks = before.blocks ++
    (List.range' (before.names.issued "code") (codeCount items)).map codeName
  kept : ∀ m ∈ before.methods, m ∈ after.methods
  methods : ∀ i, before.names.issued "code" ≤ i → i < after.names.issued "code" →
    ∃ m ∈ after.methods, m.name = codeName i

theorem Numbers.trans {first rest : List MonitorItem} {before between after : MonitorParts}
    (h : Numbers first before between) (h' : Numbers rest between after) :
    Numbers (first ++ rest) before after := by
  have hcount : codeCount (first ++ rest) = codeCount first + codeCount rest := List.countP_append
  refine ⟨?_, ?_, fun m hm => h'.kept m (h.kept m hm), ?_⟩
  · rw [h'.issued, h.issued, hcount, Nat.add_assoc]
  · rw [h'.blocks, h.blocks, h.issued, hcount, ← List.range'_append_1, List.map_append,
      List.append_assoc]
  · intro i hle hlt
    by_cases hi : i < between.names.issued "code"
    · obtain ⟨m, hm, hname⟩ := h.methods i hle hi
      exact ⟨m, h'.kept m hm, hname⟩
    · exact h'.methods i (Nat.le_of_not_lt hi) hlt

/-- Statements that are no code blocks take no numbers. -/
theorem numbers_of_no_code {item : MonitorItem} (hitem : isCode item = false)
    {before after : MonitorParts} (hnames : after.names.issued "code" = before.names.issued "code")
    (hblocks : after.blocks = before.blocks) (hkept : ∀ m ∈ before.methods, m ∈ after.methods) :
    Numbers [item] before after := by
  have hnone : codeCount [item] = 0 := by
    simp [codeCount, hitem]
  refine ⟨by rw [hnames, hnone, Nat.add_zero], by simp [hblocks, hnone], hkept, ?_⟩
  intro i hle hlt
  omega

theorem add_numbers {scope : MonitorScope} {before after : MonitorParts} {item : MonitorItem}
    (h : before.add scope item = .ok after) : Numbers [item] before after := by
  rcases item with decl | decl | decl | source
  · cases h
    exact numbers_of_no_code rfl rfl rfl fun _ hm => hm
  · obtain ⟨⟨field, type, names⟩, hlow, hok⟩ := bind_eq_ok.mp h
    cases hok
    exact numbers_of_no_code rfl (lowerEvent_issued hlow) rfl fun _ hm => hm
  · simp only [MonitorParts.add] at h
    split at h
    · cases h
    · cases h
      exact numbers_of_no_code rfl rfl rfl fun _ hm => List.mem_append_left _ hm
  · cases h
    have hone : codeCount [.code source] = 1 := rfl
    have hissued : (before.names.fresh "code").2.issued "code" =
        before.names.issued "code" + 1 := by
      simp [NameSupply.fresh]
    refine ⟨hissued, ?_, fun m hm => List.mem_append_left _ hm, ?_⟩
    · rw [hone]
      rfl
    · intro i hle hlt
      have hbound : i < (before.names.fresh "code").2.issued "code" := hlt
      rw [hissued] at hbound
      have hi : i = before.names.issued "code" := by omega
      exact ⟨_, List.mem_append_right _ (List.mem_singleton.mpr rfl), by rw [hi]; rfl⟩

theorem foldlM_add_numbers {scope : MonitorScope} {items : List MonitorItem}
    {before after : MonitorParts}
    (h : items.foldlM (MonitorParts.add scope) before = .ok after) :
    Numbers items before after := by
  induction items generalizing before with
  | nil =>
    cases h
    exact ⟨rfl, by simp [codeCount], fun _ hm => hm, fun i hle hlt => by omega⟩
  | cons item rest ih =>
    rw [List.foldlM_cons] at h
    obtain ⟨between, hfirst, hrest⟩ := bind_eq_ok.mp h
    exact (add_numbers hfirst).trans (ih hrest)

/-! ## Constructors -/

/-- The constructor of a monitor binds the namespaces and then calls the code blocks in their
order, and for each of these there is a method. -/
theorem constructor_of_ofMonitor {package : Option String} {index : SpaceIndex}
    {decl : Source.Monitor} {b : Blueprint} (h : Blueprint.ofMonitor package index decl = .ok b) :
    b.constructor = [.guarded (Naming.pascal decl.name ++ "::new") (.callSelf initializeMethod ::
      ((List.range (codeCount decl.body)).map codeName).map .callSelf)] ∧
      ∀ i < codeCount decl.body, ∃ m ∈ b.methods, m.name = codeName i := by
  obtain ⟨parts, hparts, hok⟩ := bind_eq_ok.mp h
  cases hok
  have hnumbers := foldlM_add_numbers hparts
  refine ⟨?_, ?_⟩
  · have hblocks : parts.blocks = (List.range (codeCount decl.body)).map codeName := by
      rw [hnumbers.blocks, List.range_eq_range']
      rfl
    rw [← hblocks]
  · intro i hi
    have hissued : parts.names.issued "code" = codeCount decl.body := by
      rw [hnumbers.issued]
      exact Nat.zero_add _
    obtain ⟨m, hm, hname⟩ := hnumbers.methods i (Nat.zero_le _) (hissued ▸ hi)
    exact ⟨m, List.mem_append_left _ hm, hname⟩

/-- A name of a code block is no name that a checked member can have. -/
theorem startsWith_snake_codeName (i : Nat) :
    Text.startsWith (Naming.snake (codeName i)) "code_" = true := by
  have hchars : (codeName i).toList = 'c' :: 'o' :: 'd' :: 'e' :: '_' :: (toString i).toList := by
    simp [codeName, NameSupply.numbered]
  have hlower : ∀ c ∈ ['c', 'o', 'd', 'e', '_'], Text.isUpper c = false := by
    have hall : ['c', 'o', 'd', 'e', '_'].all (!Text.isUpper ·) = true := by decide +kernel
    simpa using hall
  have hsnake : Naming.snakeList true (codeName i).toList =
      'c' :: 'o' :: 'd' :: 'e' :: '_' :: Naming.snakeList true (toString i).toList := by
    rw [hchars]
    simp [Naming.snakeList, hlower, Naming.isJoint]
  unfold Text.startsWith Naming.snake
  rw [String.toList_ofList, hsnake]
  simp

/-- A code block of a checked monitor is found under its name. -/
theorem IsLoweredFrom.find_code {package : Option String} {index : SpaceIndex}
    {decl : Source.Monitor} {b : Blueprint} (h : IsLoweredFrom package index decl b)
    (hcheck : Members.checkMonitor index decl = .ok ()) {i : Nat}
    (hmethod : ∃ m ∈ b.methods, m.name = codeName i) :
    ∃ source, b.methods.find? (·.name == codeName i) =
      some { name := codeName i, propagates := true, body := [.userCode (.block i) source] } := by
  obtain ⟨seen, hmembers⟩ := areMembers_of_checkMonitor hcheck
  obtain ⟨methods, hmethods, heq⟩ := h.methods
  obtain ⟨m, hm, hname⟩ := hmethod
  cases hfound : b.methods.find? (·.name == codeName i) with
  | none =>
    have hnot := List.find?_eq_none.mp hfound m hm
    simp [hname] at hnot
  | some found =>
    have hsame : found.name = codeName i := by
      simpa using List.find?_some hfound
    have hmem := List.mem_of_find?_eq_some hfound
    rw [heq] at hmem
    simp only [List.mem_append, List.mem_cons, List.not_mem_nil, or_false] at hmem
    rcases hmem with hmem | rfl | rfl | rfl
    · rcases hmethods found hmem with ⟨handler, kind, hhandler, rfl⟩ | ⟨n, source, rfl⟩
      · -- A handler of this name would not have passed the checks.
        have hmember : handler.name ∈ decl.usings ++ decl.body.filterMap MonitorItem.name? :=
          List.mem_append_right _ (List.mem_filterMap.mpr ⟨_, hhandler, rfl⟩)
        have hfree := hmembers.unnumbered handler.name hmember
        have hcode : handler.name = codeName i := hsame
        rw [hcode, startsWith_snake_codeName] at hfree
        cases hfree
      · cases NameSupply.numbered_inj hsame
        exact ⟨source, rfl⟩
    · exact absurd hsame.symm (numbered_code_ne i "initialize" (by simp))
    · exact absurd hsame.symm (numbered_code_ne i "pause" (by simp))
    · exact absurd hsame.symm (numbered_code_ne i "resume" (by simp))

end Watchtower
