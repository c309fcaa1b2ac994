import Mathlib.Algebra.Order.Ring.Cast
import Mathlib.Algebra.Order.Ring.Rat
import Mathlib.Data.Nat.Cast.Order.Ring
import Mathlib.Tactic.GCongr
import PackageAudit.Risk.Score

namespace PackageAudit.Risk

/-- A number as a configuration may hold it, without rounding. -/
inductive Exact where
  | rational (q : ℚ)
  | infinity (negative : Bool)
  | undefined
deriving DecidableEq

namespace Exact

def add : Exact → Exact → Exact
  | rational p, rational q => rational (p + q)
  | infinity s, rational _ | rational _, infinity s => infinity s
  | infinity s, infinity t => if s = t then infinity s else undefined
  | undefined, _ | _, undefined => undefined

def mul : Exact → Exact → Exact
  | rational p, rational q => rational (p * q)
  | infinity s, rational q | rational q, infinity s =>
    if q = 0 then undefined else infinity (s != decide (q < 0))
  | infinity s, infinity t => infinity (s != t)
  | undefined, _ | _, undefined => undefined

def le : Exact → Exact → Bool
  | undefined, _ | _, undefined => false
  | infinity true, _ | _, infinity false => true
  | rational p, rational q => p ≤ q
  | infinity false, _ | _, infinity true => false

instance : Add Exact := ⟨add⟩

instance : Mul Exact := ⟨mul⟩

instance : IntCast Exact := ⟨fun n ↦ rational n⟩

instance : LE Exact := ⟨fun x y ↦ le x y = true⟩

instance : DecidableLE Exact := fun x y ↦ inferInstanceAs (Decidable (le x y = true))

theorem rational_le {p q : ℚ} (h : p ≤ q) {t : Exact} (ht : rational q ≤ t) : rational p ≤ t := by
  cases t with
  | rational r => exact decide_eq_true (h.trans (of_decide_eq_true ht))
  | infinity negative =>
    cases negative with
    | false => rfl
    | true => cases ht
  | undefined => cases ht

/-- A weight is finite and not negative. -/
def IsWeight (x : Exact) : Prop := ∃ q : ℚ, 0 ≤ q ∧ x = rational q

end Exact

theorem Level.le_refl (l : Level) : l ≤ l := Nat.le_refl l.rank

theorem Level.le_high (l : Level) : l ≤ .high := by
  cases l <;> decide

section

variable {α : Type} [LE α] [DecidableLE α]

/-- A value that is within every threshold that another one is within has at most its level. -/
theorem Config.level_le_level (config : Config α) {x y : α} (h : ∀ t, y ≤ t → x ≤ t) :
    config.level x ≤ config.level y := by
  unfold level
  by_cases hlow : y ≤ config.low
  · rw [if_pos hlow, if_pos (h _ hlow)]
    exact Level.le_refl _
  · rw [if_neg hlow]
    by_cases hmedium : y ≤ config.medium
    · rw [if_pos hmedium, if_pos (h _ hmedium)]
      split <;> decide
    · rw [if_neg hmedium]
      exact Level.le_high _

end

/-- The weights are finite and not negative. The thresholds are any numbers. -/
structure Config.IsWeighted (config : Config Exact) : Prop where
  usage : config.usage.IsWeight
  symbol : config.symbol.IsWeight
  complexity : config.complexity.IsWeight

structure Counts.AtMost (a b : Counts) : Prop where
  usages : a.usages ≤ b.usages
  symbols : a.symbols ≤ b.symbols
  complexity : a.complexity ≤ b.complexity

theorem Counts.value_eq_rational {config : Config Exact} {u s k : ℚ}
    (hu : config.usage = .rational u) (hs : config.symbol = .rational s)
    (hk : config.complexity = .rational k) (c : Counts) :
    c.value config = .rational (c.usages * u + c.symbols * s + c.complexity * k) := by
  rw [value, hu, hs, hk]
  rfl

theorem Counts.AtMost.level_le {config : Config Exact} (hc : config.IsWeighted) {a b : Counts}
    (h : a.AtMost b) : config.level (a.value config) ≤ config.level (b.value config) := by
  obtain ⟨u, hu, hu'⟩ := hc.usage
  obtain ⟨s, hs, hs'⟩ := hc.symbol
  obtain ⟨k, hk, hk'⟩ := hc.complexity
  have husages : (a.usages : ℚ) ≤ b.usages := Nat.cast_le.mpr h.usages
  have hsymbols : (a.symbols : ℚ) ≤ b.symbols := Nat.cast_le.mpr h.symbols
  have hcomplexity : (a.complexity : ℚ) ≤ b.complexity := Int.cast_le.mpr h.complexity
  have hsum : (a.usages * u + a.symbols * s + a.complexity * k : ℚ) ≤
      b.usages * u + b.symbols * s + b.complexity * k := by
    gcongr
  rw [Counts.value_eq_rational hu' hs' hk', Counts.value_eq_rational hu' hs' hk']
  exact config.level_le_level fun t ht ↦ Exact.rational_le hsum ht

-- Thresholds in the wrong order leave no value at the level between them.
example : (⟨.rational 1, .rational 2, .rational (1 / 2), .rational 15, .rational 5⟩ :
    Config Exact).level (.rational 10) = .low := by
  decide

end PackageAudit.Risk
