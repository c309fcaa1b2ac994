import PackageAudit.Text.CodePoint

namespace PackageAudit.Risk

inductive Level where
  | low | medium | high
deriving DecidableEq, Inhabited

namespace Level

def name : Level → String
  | low => "low"
  | medium => "medium"
  | high => "high"

def rank : Level → Nat
  | low => 0
  | medium => 1
  | high => 2

instance : LE Level := ⟨fun a b ↦ a.rank ≤ b.rank⟩

instance : DecidableLE Level := fun a b ↦ inferInstanceAs (Decidable (a.rank ≤ b.rank))

def all : List Level := [low, medium, high]

def ofName? (name : Text) : Option Level := all.find? fun l ↦ Text.ofString l.name = name

end Level

end PackageAudit.Risk
