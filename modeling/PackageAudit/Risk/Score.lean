import PackageAudit.Decimal.Format
import PackageAudit.Risk.Level

namespace PackageAudit.Risk

instance floatIntCast : IntCast Float := ⟨fun n ↦
  let x := Decimal.ofDecimal n.natAbs 0
  if n < 0 then -x else x⟩

/-- Weights of the counts, and the highest values of the levels `low` and `medium`. Reports have
doubles here; any numbers with a sum, a product and an order do. -/
structure Config (α : Type) where
  usage : α
  symbol : α
  complexity : α
  low : α
  medium : α

def Config.default : Config Float := ⟨1, 2, 0.5, 5, 15⟩

structure Counts where
  usages : Nat
  symbols : Nat
  complexity : Int
deriving DecidableEq

section

variable {α : Type} [Add α] [Mul α] [IntCast α]

def Counts.value (c : Counts) (config : Config α) : α :=
  ((c.usages : Int) : α) * config.usage + ((c.symbols : Int) : α) * config.symbol +
    (c.complexity : α) * config.complexity

end

section

variable {α : Type} [LE α] [DecidableLE α]

def Config.level (config : Config α) (value : α) : Level :=
  if value ≤ config.low then .low else if value ≤ config.medium then .medium else .high

end

def Counts.explain (c : Counts) (config : Config Float) : List Text :=
  let value := c.value config
  [Text.ofNat c.usages ++ " call sites x " ++ Decimal.writeBrief config.usage,
   Text.ofNat c.symbols ++ " distinct symbols x " ++ Decimal.writeBrief config.symbol,
   "complexity " ++ Text.ofString (toString c.complexity) ++ " x " ++
     Decimal.writeBrief config.complexity,
   "Total risk " ++ Decimal.writeBrief value ++ ": " ++ Text.ofString (config.level value).name]

end PackageAudit.Risk
