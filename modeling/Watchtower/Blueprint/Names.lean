-- Names that are made up while a declaration is lowered: a prefix and a running number.

namespace Watchtower

/-- How many names were issued for each prefix. -/
structure NameSupply where
  issued : String → Nat := fun _ => 0

namespace NameSupply

/-- The name with this number. -/
def numbered (base : String) (n : Nat) : String :=
  base ++ "_" ++ toString n

/-- Issues the next name for a prefix. -/
def fresh (names : NameSupply) (base : String) : String × NameSupply :=
  (numbered base (names.issued base),
    ⟨fun other => if other = base then names.issued base + 1 else names.issued other⟩)

end NameSupply

end Watchtower
