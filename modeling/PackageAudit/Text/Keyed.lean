import PackageAudit.Text.CodePoint

namespace PackageAudit

/-- Keys are not repeated. -/
abbrev Keyed (α : Type) := List (Text × α)

namespace Keyed

variable {α : Type}

def get? (m : Keyed α) (key : Text) : Option α := (m.find? (·.1 = key)).map (·.2)

def contains (m : Keyed α) (key : Text) : Bool := m.any (·.1 = key)

/-- Sets a key: a new key comes last, a known one keeps its place. -/
def insert (m : Keyed α) (key : Text) (value : α) : Keyed α :=
  if m.contains key then m.map fun e ↦ if e.1 = key then (key, value) else e
  else m ++ [(key, value)]

/-- Changes the value under a key, which is `default` for a new key. -/
def amend [Inhabited α] (m : Keyed α) (key : Text) (change : α → α) : Keyed α :=
  m.insert key (change ((m.get? key).getD default))

/-- The entries in their order, where of equal keys the last value stands in the first place. -/
def ofList (entries : List (Text × α)) : Keyed α :=
  entries.foldl (fun m e ↦ m.insert e.1 e.2) []

def keys (m : Keyed α) : List Text := m.map (·.1)

end Keyed

end PackageAudit
