import Mathlib.Algebra.Order.Field.Power
import Mathlib.Algebra.Order.Field.Rat
import Mathlib.Tactic.FieldSimp
import Mathlib.Tactic.Linarith
import Mathlib.Tactic.NormNum
import Mathlib.Tactic.Positivity
import Mathlib.Tactic.Ring
import PackageAudit.Decimal.Shortest

namespace PackageAudit.Decimal

namespace Ratio

variable {r : Ratio} {n : ℕ}

theorem round_eq_or (r : Ratio) :
    (r.round = r.num / r.den ∧ 2 * (r.num % r.den) ≤ r.den) ∨
      (r.round = r.num / r.den + 1 ∧ r.den ≤ 2 * (r.num % r.den)) := by
  simp only [round]
  split
  · exact .inl ⟨rfl, by omega⟩
  · split
    · exact .inr ⟨rfl, by omega⟩
    · split
      · exact .inl ⟨rfl, by omega⟩
      · exact .inr ⟨rfl, by omega⟩

theorem round_le (hden : 0 < r.den) (h : r.num ≤ n * r.den) : r.round ≤ n := by
  have hbelow : r.num / r.den ≤ n := Nat.div_le_of_le_mul (by rwa [Nat.mul_comm])
  obtain ⟨hround, -⟩ | ⟨hround, hhalf⟩ := round_eq_or r <;> rw [hround]
  · exact hbelow
  · have hdiv := Nat.div_add_mod r.num r.den
    refine Nat.lt_of_le_of_ne hbelow fun heq ↦ ?_
    rw [heq, Nat.mul_comm] at hdiv
    omega

theorem le_round (hden : 0 < r.den) (h : n * r.den ≤ r.num) : n ≤ r.round := by
  have hbelow : n ≤ r.num / r.den := (Nat.le_div_iff_mul_le hden).mpr h
  obtain ⟨hround, -⟩ | ⟨hround, -⟩ := round_eq_or r <;> omega

theorem le_round_iff_of_even (hden : 0 < r.den) (heven : n % 2 = 0) :
    n ≤ r.round ↔ 2 * (n * r.den) ≤ 2 * r.num + r.den := by
  have hdiv := Nat.div_add_mod r.num r.den
  have hmod := Nat.mod_lt r.num hden
  constructor
  · intro h
    obtain ⟨hround, hhalf⟩ | ⟨hround, hhalf⟩ := round_eq_or r <;> rw [hround] at h
    · have := Nat.mul_le_mul_right r.den h
      rw [Nat.mul_comm (r.num / r.den)] at this
      omega
    · have := Nat.mul_le_mul_right r.den h
      rw [Nat.add_one_mul, Nat.mul_comm (r.num / r.den)] at this
      omega
  · intro h
    have hbelow : n ≤ r.num / r.den + 1 := by
      by_contra hlt
      have hle := Nat.mul_le_mul_right r.den (Nat.succ_le_of_lt (Nat.lt_of_not_le hlt))
      rw [Nat.succ_mul, Nat.add_one_mul, Nat.mul_comm (r.num / r.den)] at hle
      omega
    rcases Nat.lt_or_ge (r.num / r.den) n with hlt | hge
    · have heq : n = r.num / r.den + 1 := by omega
      have hmul : n * r.den = r.den * (r.num / r.den) + r.den := by
        rw [heq, Nat.add_one_mul, Nat.mul_comm]
      -- Just below an even number, the half rounds up.
      simp only [round]
      split
      · omega
      · split
        · omega
        · split <;> omega
    · obtain ⟨hround, -⟩ | ⟨hround, -⟩ := round_eq_or r <;> omega

end Ratio

/-- Where the doubles end: the middle between the greatest one and the next power of two. From here
on a magnitude is rounded to an infinity. -/
def limit : ℚ := (2 ^ 54 - 1) * 2 ^ 970

theorem limit_eq : limit = (2 ^ 53 - 1 / 2) * 2 ^ (971 : ℤ) := by
  have hpow : (2 : ℚ) ^ (971 : ℤ) = 2 * 2 ^ 970 := by rw [zpow_ofNat, ← pow_succ']
  rw [limit, hpow]
  generalize (2 : ℚ) ^ 970 = p
  ring

theorem limit_le : limit ≤ 2 ^ 1024 := by
  have hpow : (2 : ℚ) ^ 1024 = 2 ^ 54 * 2 ^ 970 := by rw [← pow_add]
  rw [limit, hpow]
  gcongr
  exact sub_le_self _ zero_le_one

theorem lt_limit : 2 ^ 1023 < limit := by
  have hpow : (2 : ℚ) ^ 1023 = 2 ^ 53 * 2 ^ 970 := by rw [← pow_add]
  rw [limit, hpow]
  gcongr
  norm_num

theorem limit_pos : 0 < limit := lt_trans (by positivity) lt_limit

/-- What a double could hold if its exponent had no upper bound. -/
def Representable (r : ℚ) : Prop := ∃ n e : ℤ, |n| < 2 ^ 53 ∧ -1074 ≤ e ∧ r = n * 2 ^ e

theorem Representable.neg {r : ℚ} (h : Representable r) : Representable (-r) := by
  obtain ⟨n, e, hn, he, rfl⟩ := h
  exact ⟨-n, e, by rwa [abs_neg], he, by push_cast; ring⟩

theorem representable_two_pow (k : ℕ) : Representable (2 ^ k) :=
  ⟨1, k, by norm_num, by omega, by simp⟩

theorem Representable.two_pow_mul {r : ℚ} (h : Representable r) (k : ℕ) :
    Representable (2 ^ k * r) := by
  obtain ⟨n, e, hn, he, rfl⟩ := h
  refine ⟨n, e + k, hn, by omega, ?_⟩
  rw [zpow_add₀ two_ne_zero, zpow_natCast]
  ring

theorem representable_zero : Representable 0 := ⟨0, 0, by norm_num, by norm_num, by simp⟩

/-- What the order tells of rounding, with exponents that have no upper bound: it crosses no number
that a double could hold, and comes to the first power of two that is too great from the limit on.
-/
structure IsRounding (q v : ℚ) : Prop where
  le_of_le : ∀ r, Representable r → q ≤ r → v ≤ r
  ge_of_ge : ∀ r, Representable r → r ≤ q → r ≤ v
  overflow_iff : 2 ^ 1024 ≤ v ↔ limit ≤ q
  underflow_iff : v ≤ -2 ^ 1024 ↔ q ≤ -limit

theorem IsRounding.neg {q v : ℚ} (h : IsRounding q v) : IsRounding (-q) (-v) where
  le_of_le r hr hle := neg_le.mpr (h.ge_of_ge _ hr.neg (neg_le.mp hle))
  ge_of_ge r hr hle := le_neg.mpr (h.le_of_le _ hr.neg (le_neg.mp hle))
  overflow_iff := by rw [le_neg, h.underflow_iff, le_neg]
  underflow_iff := by rw [neg_le_neg_iff, h.overflow_iff, neg_le_neg_iff]

theorem IsRounding.eq_of_representable {q v : ℚ} (h : IsRounding q v) (hq : Representable q) :
    v = q :=
  le_antisymm (h.le_of_le q hq le_rfl) (h.ge_of_ge q hq le_rfl)

theorem isRounding_zero : IsRounding 0 0 where
  le_of_le _ _ h := h
  ge_of_ge _ _ h := h
  overflow_iff := iff_of_false (not_le.mpr (by positivity)) (not_le.mpr limit_pos)
  underflow_iff := iff_of_false (not_le.mpr (neg_lt_zero.mpr (by positivity)))
    (not_le.mpr (neg_lt_zero.mpr limit_pos))

variable {m d : ℕ} {t : ℤ}

theorem natCast_mul_zpow {t e : ℤ} (h : t ≤ e) (n : ℕ) :
    (n : ℚ) * 2 ^ e = (n * 2 ^ (e - t).toNat : ℕ) * 2 ^ t := by
  have he : e = (e - t).toNat + t := by omega
  conv_lhs => rw [he, zpow_add₀ two_ne_zero, zpow_natCast]
  push_cast
  ring

theorem zpow_pos_two (t : ℤ) : (0 : ℚ) < 2 ^ t := by positivity

theorem mul_zpow_lt_of_lt {n e : ℤ} (hn : |n| < 2 ^ 53) (he : e < t) :
    (n : ℚ) * 2 ^ e < 2 ^ 52 * 2 ^ t := by
  have hlt : (n : ℚ) < 2 ^ 53 := by exact_mod_cast (le_abs_self n).trans_lt hn
  have hpos := zpow_pos_two e
  calc (n : ℚ) * 2 ^ e < 2 ^ 53 * 2 ^ e := by gcongr
    _ = 2 ^ 52 * 2 ^ (e + 1) := by rw [zpow_add_one₀ two_ne_zero]; ring
    _ ≤ 2 ^ 52 * 2 ^ t := by gcongr; exacts [one_le_two, he]

theorem div_mul_nonneg (m d : ℕ) (t : ℤ) : (0 : ℚ) ≤ m / 2 ^ d * 2 ^ t := by positivity

section Mantissa

variable (hm : m < 2 ^ (d + 53)) (hfull : t = -1074 ∨ 2 ^ (d + 52) ≤ m)

theorem round_mul_le {n : ℕ} (h : (m : ℚ) / 2 ^ d * 2 ^ t ≤ n * 2 ^ t) :
    ((Ratio.round ⟨m, 2 ^ d⟩ : ℕ) : ℚ) * 2 ^ t ≤ n * 2 ^ t := by
  have hpos := zpow_pos_two t
  have hden : (0 : ℚ) < 2 ^ d := by positivity
  rw [mul_le_mul_iff_left₀ hpos, div_le_iff₀ hden] at h
  rw [mul_le_mul_iff_left₀ hpos]
  exact_mod_cast Ratio.round_le (Nat.two_pow_pos d) (by exact_mod_cast h)

theorem le_round_mul {n : ℕ} (h : (n : ℚ) * 2 ^ t ≤ m / 2 ^ d * 2 ^ t) :
    (n : ℚ) * 2 ^ t ≤ (Ratio.round ⟨m, 2 ^ d⟩ : ℕ) * 2 ^ t := by
  have hpos := zpow_pos_two t
  have hden : (0 : ℚ) < 2 ^ d := by positivity
  rw [mul_le_mul_iff_left₀ hpos, le_div_iff₀ hden] at h
  rw [mul_le_mul_iff_left₀ hpos]
  exact_mod_cast Ratio.le_round (Nat.two_pow_pos d) (by exact_mod_cast h)

include hm in
theorem div_mul_lt : (m : ℚ) / 2 ^ d * 2 ^ t < 2 ^ 53 * 2 ^ t := by
  have hm' : (m : ℚ) < 2 ^ 53 * 2 ^ d := by
    rw [← pow_add, Nat.add_comm]
    exact_mod_cast hm
  have hden : (0 : ℚ) < 2 ^ d := by positivity
  have hpos := zpow_pos_two t
  exact (mul_lt_mul_iff_left₀ hpos).mpr ((div_lt_iff₀ hden).mpr hm')

include hfull in
theorem le_div_mul (h : t ≠ -1074) : (2 : ℚ) ^ 52 * 2 ^ t ≤ m / 2 ^ d * 2 ^ t := by
  have hm' : (2 : ℚ) ^ 52 * 2 ^ d ≤ m := by
    rw [← pow_add, Nat.add_comm]
    exact_mod_cast hfull.resolve_left h
  have hden : (0 : ℚ) < 2 ^ d := by positivity
  gcongr
  exact (le_div_iff₀ hden).mpr hm'

include hm hfull in
theorem overflow_iff_round_mul :
    (2 : ℚ) ^ 1024 ≤ (Ratio.round ⟨m, 2 ^ d⟩ : ℕ) * 2 ^ t ↔ limit ≤ m / 2 ^ d * 2 ^ t := by
  rcases lt_trichotomy t 971 with hlt | rfl | hgt
  · have hbelow : (2 : ℚ) ^ 53 * 2 ^ t ≤ 2 ^ 1023 := by
      calc (2 : ℚ) ^ 53 * 2 ^ t ≤ 2 ^ 53 * 2 ^ (970 : ℤ) := by
            gcongr
            exacts [one_le_two, by omega]
        _ = 2 ^ 1023 := by rw [zpow_ofNat, ← pow_add]
    have hv : ((Ratio.round ⟨m, 2 ^ d⟩ : ℕ) : ℚ) * 2 ^ t ≤ (2 ^ 53 : ℕ) * 2 ^ t :=
      round_mul_le (by exact_mod_cast (div_mul_lt (t := t) hm).le)
    refine iff_of_false (not_le.mpr ?_) (not_le.mpr ?_)
    · have hless : (2 : ℚ) ^ 1023 < 2 ^ 1024 := pow_lt_pow_right₀ one_lt_two (Nat.lt_succ_self 1023)
      exact (hv.trans (by exact_mod_cast hbelow)).trans_lt hless
    · exact (div_mul_lt hm).trans_le (hbelow.trans lt_limit.le)
  · have hpos := zpow_pos_two 971
    have hden : (0 : ℚ) < 2 ^ d := by positivity
    have hpow : (2 : ℚ) ^ 1024 = (2 ^ 53 : ℕ) * 2 ^ (971 : ℤ) := by
      rw [zpow_ofNat, Nat.cast_pow, Nat.cast_ofNat, ← pow_add]
    rw [hpow, limit_eq, mul_le_mul_iff_left₀ hpos, mul_le_mul_iff_left₀ hpos, le_div_iff₀ hden,
      Nat.cast_le, Ratio.le_round_iff_of_even (Nat.two_pow_pos d) (by norm_num)]
    have hcast : ((2 : ℚ) ^ 53 - 1 / 2) * 2 ^ d ≤ m ↔
        ((2 * (2 ^ 53 * 2 ^ d) : ℕ) : ℚ) ≤ (2 * m + 2 ^ d : ℕ) := by
      push_cast
      constructor <;> intro h <;> linarith only [h]
    rw [hcast, Nat.cast_le]
  · have habove : (2 : ℚ) ^ 1024 ≤ 2 ^ 52 * 2 ^ t := by
      calc (2 : ℚ) ^ 1024 = 2 ^ 52 * 2 ^ (972 : ℤ) := by rw [zpow_ofNat, ← pow_add]
        _ ≤ 2 ^ 52 * 2 ^ t := by
            gcongr
            exacts [one_le_two, by omega]
    have hq := le_div_mul hfull (by omega)
    have hv := le_round_mul (n := 2 ^ 52) (by exact_mod_cast hq)
    exact iff_of_true (habove.trans (by exact_mod_cast hv)) (limit_le.trans (habove.trans hq))

include hm hfull in
theorem isRounding_round :
    IsRounding ((m : ℚ) / 2 ^ d * 2 ^ t) ((Ratio.round ⟨m, 2 ^ d⟩ : ℕ) * 2 ^ t) := by
  have hq := div_mul_nonneg m d t
  refine ⟨?_, ?_, overflow_iff_round_mul hm hfull, ?_⟩
  · rintro r ⟨n, e, hn, he, rfl⟩ hle
    have het : t ≤ e := by
      by_contra hlt
      have hsmall := mul_zpow_lt_of_lt hn (not_le.mp hlt)
      exact absurd (hle.trans_lt hsmall) (not_lt.mpr (le_div_mul hfull (by omega)))
    have hn0 : 0 ≤ n := by
      have hpos := zpow_pos_two e
      exact_mod_cast nonneg_of_mul_nonneg_left (hq.trans hle) hpos
    lift n to ℕ using hn0
    rw [Int.cast_natCast, natCast_mul_zpow het] at hle ⊢
    exact round_mul_le hle
  · rintro r ⟨n, e, hn, he, rfl⟩ hle
    rcases lt_or_ge e t with hlt | het
    · refine (mul_zpow_lt_of_lt hn hlt).le.trans ?_
      have hfull := le_round_mul (n := 2 ^ 52) (by exact_mod_cast le_div_mul hfull (by omega))
      exact_mod_cast hfull
    · rcases le_or_gt n 0 with hn0 | hn0
      · have hpos := zpow_pos_two e
        refine (mul_nonpos_of_nonpos_of_nonneg (by exact_mod_cast hn0) hpos.le).trans ?_
        exact mul_nonneg (Nat.cast_nonneg _) (zpow_pos_two t).le
      · lift n to ℕ using hn0.le
        rw [Int.cast_natCast, natCast_mul_zpow het] at hle ⊢
        exact le_round_mul hle
  · refine iff_of_false (not_le.mpr ?_) (not_le.mpr ?_)
    · have hv : (0 : ℚ) ≤ (Ratio.round ⟨m, 2 ^ d⟩ : ℕ) * 2 ^ t :=
        mul_nonneg (Nat.cast_nonneg _) (zpow_pos_two t).le
      exact lt_of_lt_of_le (by norm_num) hv
    · exact lt_of_lt_of_le (neg_lt_zero.mpr limit_pos) hq

end Mantissa

end PackageAudit.Decimal
