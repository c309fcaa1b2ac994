import Mathlib
import PackageAudit.Proofs.Decimal.Rounding

namespace PackageAudit.Decimal

open Float.Model Float.Model.UnpackedFloat

theorem shiftRight_exact (m d : ℕ) :
    ExtendedMantissa.ofMantissaAndAccuracy m .exact >>> d =
      ⟨m / 2 ^ d, d != 0 && m / 2 ^ (d - 1) % 2 != 0, d != 0 && m % 2 ^ (d - 1) != 0⟩ := by
  induction d with
  | zero => simp [HShiftRight.hShiftRight, Nat.repeat, ExtendedMantissa.ofMantissaAndAccuracy]
  | succ d ih =>
    have hstep : ExtendedMantissa.ofMantissaAndAccuracy m .exact >>> (d + 1) =
        (ExtendedMantissa.ofMantissaAndAccuracy m .exact >>> d).shiftRightOne := rfl
    rw [hstep, ih, ExtendedMantissa.shiftRightOne]
    have hdiv : m / 2 ^ d / 2 = m / 2 ^ (d + 1) := by rw [Nat.div_div_eq_div_mul, pow_succ]
    rw [hdiv]
    cases d with
    | zero => simp [Nat.mod_one]
    | succ d =>
      have hsticky : (m / 2 ^ d % 2 != 0 || m % 2 ^ d != 0) = (m % 2 ^ (d + 1) != 0) := by
        rw [Nat.mod_pow_succ, Bool.eq_iff_iff]
        have hpos := Nat.two_pow_pos d
        rcases Nat.mod_two_eq_zero_or_one (m / 2 ^ d) with h | h <;> simp [h]
      simpa using hsticky

theorem roundedMantissa_shiftRight (m d : ℕ) :
    (ExtendedMantissa.ofMantissaAndAccuracy m .exact >>> d).roundedMantissa =
      Ratio.round ⟨m, 2 ^ d⟩ := by
  rw [shiftRight_exact]
  cases d with
  | zero =>
    simp [ExtendedMantissa.roundedMantissa, ExtendedMantissa.accuracy, Accuracy.roundToNearestEven,
      Ratio.round, Nat.mod_one]
  | succ d =>
    have hrest : m % 2 ^ (d + 1) = m % 2 ^ d + 2 ^ d * (m / 2 ^ d % 2) := Nat.mod_pow_succ
    have hlow := Nat.mod_lt m (Nat.two_pow_pos d)
    have hden : 2 ^ (d + 1) = 2 * 2 ^ d := by rw [pow_succ, Nat.mul_comm]
    simp only [ExtendedMantissa.roundedMantissa, Ratio.round, hrest]
    rw [hden]
    -- The round bit tells whether a half remains, the sticky bit whether more than that does.
    rcases Nat.mod_two_eq_zero_or_one (m / 2 ^ d) with hbit | hbit
    · have hless : 2 * (m % 2 ^ d) < 2 * 2 ^ d := by omega
      cases hsticky : m % 2 ^ d != 0 <;>
        simp [hbit, hless, hsticky, ExtendedMantissa.accuracy, Accuracy.roundToNearestEven]
    · have hodd : m / (2 * 2 ^ d) + m / (2 * 2 ^ d) % 2 =
          if m / (2 * 2 ^ d) % 2 = 0 then m / (2 * 2 ^ d) else m / (2 * 2 ^ d) + 1 := by
        split <;> omega
      cases hsticky : m % 2 ^ d != 0
      · have hnone : m % 2 ^ d = 0 := by simpa using hsticky
        simpa [hbit, hnone, ExtendedMantissa.accuracy, Accuracy.roundToNearestEven] using hodd
      · have hsome : 0 < m % 2 ^ d := Nat.pos_of_ne_zero (by simpa using hsticky)
        simp [hbit, hsome, hsticky, ExtendedMantissa.accuracy, Accuracy.roundToNearestEven]

def rational : UnpackedFloat → ℚ
  | .finite .positive m e _ => m * 2 ^ e
  | .finite .negative m e _ => -(m * 2 ^ e)
  | _ => 0

/-- A mantissa of 53 bits, or fewer with the least exponent. -/
def IsCanonical : UnpackedFloat → Prop
  | .finite _ m e _ => m < 2 ^ 53 ∧ -1074 ≤ e ∧ (e = -1074 ∨ 2 ^ 52 ≤ m)
  | _ => True

/-- A number is rounded, with an exponent that may be too great for a double. -/
structure Rounds (u : UnpackedFloat) (q : ℚ) : Prop where
  isFinite : u.isFinite = true
  isCanonical : IsCanonical u
  isRounding : IsRounding q (rational u)

def signed (s : Sign) (q : ℚ) : ℚ :=
  match s with
  | .positive => q
  | .negative => -q

variable {m : ℕ} {e t : ℤ}

theorem targetExponent_eq (m : ℕ) (e : ℤ) :
    Format.binary64.targetExponent (totalExponent m e) = max (m.log2 + e - 52) (-1074) := by
  simp only [Format.targetExponent, totalExponent, Format.mantissaBits, Format.minExponent]
  norm_num
  omega

theorem shift_of_lt (hm : m < 2 ^ 53) (ht : -1074 ≤ t) :
    shiftToTargetExponent Format.binary64 m t .exact = (⟨m, false, false⟩, t) := by
  have hlog : m.log2 ≤ 52 := by
    by_cases h : m = 0
    · simp [h]
    · exact Nat.le_of_lt_succ ((Nat.log2_lt h).mpr hm)
  have hnone : (max ((m.log2 : ℤ) + t - 52) (-1074) - t).toNat = 0 := by omega
  rw [shiftToTargetExponent, targetExponent_eq, shiftToExponent, hnone]
  simp [HShiftRight.hShiftRight, Nat.repeat, ExtendedMantissa.ofMantissaAndAccuracy]

theorem shift_two_pow (ht : -1074 ≤ t) :
    shiftToTargetExponent Format.binary64 (2 ^ 53) t .exact = (⟨2 ^ 52, false, false⟩, t + 1) := by
  have hone : (max (((2 ^ 53 : ℕ).log2 : ℤ) + t - 52) (-1074) - t).toNat = 1 := by
    rw [Nat.log2_two_pow]
    omega
  rw [shiftToTargetExponent, targetExponent_eq, shiftToExponent, hone]
  rfl

theorem roundWithAccuracy_eq (s : Sign) {d : ℕ}
    (htarget : max ((m.log2 : ℤ) + e - 52) (-1074) = e + d)
    (hmax : Ratio.round ⟨m, 2 ^ d⟩ ≤ 2 ^ 53) : roundWithAccuracy Format.binary64 s m e .exact =
      if h : Ratio.round ⟨m, 2 ^ d⟩ = 0 then .zero s
      else if Ratio.round ⟨m, 2 ^ d⟩ < 2 ^ 53 then
        .finite s (Ratio.round ⟨m, 2 ^ d⟩) (e + d) (Nat.pos_of_ne_zero h)
      else .finite s (2 ^ 52) (e + d + 1) (by decide) := by
  have hfirst : shiftToTargetExponent Format.binary64 m e .exact =
      (ExtendedMantissa.ofMantissaAndAccuracy m .exact >>> d, e + d) := by
    have hshift : (max ((m.log2 : ℤ) + e - 52) (-1074) - e).toNat = d := by omega
    rw [shiftToTargetExponent, targetExponent_eq, shiftToExponent, hshift]
  have hmin : -1074 ≤ e + d := by omega
  simp only [roundWithAccuracy, hfirst, roundedMantissa_shiftRight]
  rcases hmax.lt_or_eq with hlt | heq
  · simp only [shift_of_lt hlt hmin, hlt, if_true]
  · simp only [heq, shift_two_pow hmin]
    rfl

theorem rational_zero (s : Sign) : rational (.zero s) = signed s 0 := by
  cases s <;> simp [rational, signed]

theorem rational_finite (s : Sign) (h : 0 < m) :
    rational (.finite s m e h) = signed s (m * 2 ^ e) := by
  cases s <;> rfl

theorem IsRounding.signed {q v : ℚ} (h : IsRounding q v) (s : Sign) :
    IsRounding (signed s q) (signed s v) := by
  cases s
  · exact h.neg
  · exact h

theorem rounds_roundWithAccuracy (s : Sign) (hm : 0 < m)
    (he : e ≤ max ((m.log2 : ℤ) + e - 52) (-1074)) :
    Rounds (roundWithAccuracy Format.binary64 s m e .exact) (signed s (m * 2 ^ e)) := by
  obtain ⟨d, htarget⟩ := Int.exists_add_of_le he
  have hbits : m < 2 ^ (d + 53) :=
    Nat.lt_log2_self.trans_le (Nat.pow_le_pow_right Nat.two_pos (by omega))
  have hfull : e + d = -1074 ∨ 2 ^ (d + 52) ≤ m := by
    by_cases hleast : e + d = -1074
    · exact .inl hleast
    · have hlog : m.log2 = d + 52 := by omega
      exact .inr (hlog ▸ Nat.log2_self_le hm.ne')
  have hden := Nat.two_pow_pos d
  have hexact : (m : ℚ) * 2 ^ e = m / 2 ^ d * 2 ^ (e + d) := by
    rw [zpow_add₀ two_ne_zero, zpow_natCast]
    field_simp
  have hmax : Ratio.round ⟨m, 2 ^ d⟩ ≤ 2 ^ 53 :=
    Ratio.round_le hden (by rw [← pow_add, Nat.add_comm]; exact hbits.le)
  have hmin : e + d = -1074 ∨ 2 ^ 52 ≤ Ratio.round ⟨m, 2 ^ d⟩ :=
    hfull.imp_right fun h ↦ Ratio.le_round hden (by rwa [← pow_add, Nat.add_comm])
  have hrounding := (isRounding_round hbits hfull).signed s
  rw [hexact, roundWithAccuracy_eq s htarget hmax]
  split
  · rename_i hzero
    rw [hzero, Nat.cast_zero, zero_mul, ← rational_zero] at hrounding
    exact ⟨rfl, trivial, hrounding⟩
  · split
    · rename_i hpos hlt
      rw [← rational_finite s (Nat.pos_of_ne_zero hpos)] at hrounding
      exact ⟨rfl, ⟨hlt, by omega, hmin⟩, hrounding⟩
    · rename_i hpos hlt
      have hcarry : ((2 ^ 53 : ℕ) : ℚ) * 2 ^ (e + d) = (2 ^ 52 : ℕ) * 2 ^ (e + d + 1) := by
        rw [zpow_add_one₀ two_ne_zero]
        push_cast
        ring
      rw [hmax.antisymm (not_lt.mp hlt), hcarry, ← rational_finite s (by decide)] at hrounding
      exact ⟨rfl, ⟨by decide, by omega, .inr le_rfl⟩, hrounding⟩

theorem log2_shiftLeft (hm : 0 < m) (k : ℕ) : (m <<< k).log2 = m.log2 + k := by
  have hpos := Nat.two_pow_pos k
  rw [Nat.shiftLeft_eq, Nat.log2_eq_iff (Nat.mul_pos hm hpos).ne', pow_add, pow_succ, pow_add,
    Nat.mul_right_comm]
  exact ⟨Nat.mul_le_mul_right _ (Nat.log2_self_le hm.ne'),
    (Nat.mul_lt_mul_right hpos).mpr (pow_succ 2 m.log2 ▸ Nat.lt_log2_self)⟩

theorem rounds_round (s : Sign) (hm : 0 < m) :
    Rounds (UnpackedFloat.round Format.binary64 s m e) (signed s (m * 2 ^ e)) := by
  rw [UnpackedFloat.round, targetExponent_eq]
  simp only [decreaseExponent]
  generalize hk : (e - max ((m.log2 : ℤ) + e - 52) (-1074)).toNat = k
  have hexact : (m : ℚ) * 2 ^ e = (m <<< k : ℕ) * 2 ^ (e - k) := by
    rw [Nat.shiftLeft_eq, zpow_sub₀ two_ne_zero, zpow_natCast]
    push_cast
    field_simp
  have hlog : (m <<< k).log2 = m.log2 + k := log2_shiftLeft hm k
  rw [hexact]
  exact rounds_roundWithAccuracy s (by rw [Nat.shiftLeft_eq]; positivity) (by omega)

theorem rounds_normalize (n e : ℤ) (s : Sign) :
    Rounds (UnpackedFloat.normalize Format.binary64 n e s) (n * 2 ^ e) := by
  rw [UnpackedFloat.normalize]
  rcases lt_trichotomy n 0 with hlt | rfl | hgt
  · have hcompare : compare n 0 = .lt := compare_lt_iff_lt.mpr hlt
    have hvalue : (n : ℚ) * 2 ^ e = signed .negative ((-n).toNat * 2 ^ e) := by
      have hnat : (((-n).toNat : ℤ) : ℚ) = -n := by
        rw [Int.toNat_of_nonneg (by omega), Int.cast_neg]
      rw [← Int.cast_natCast, hnat, signed]
      ring
    rw [hcompare, hvalue]
    exact rounds_round _ (by omega)
  · have hcompare : compare (0 : ℤ) 0 = .eq := rfl
    rw [hcompare, Int.cast_zero, zero_mul]
    exact ⟨rfl, trivial, isRounding_zero⟩
  · have hcompare : compare n 0 = .gt := compare_gt_iff_gt.mpr hgt
    have hvalue : (n : ℚ) * 2 ^ e = signed .positive (n.toNat * 2 ^ e) := by
      have hnat : ((n.toNat : ℤ) : ℚ) = n := by rw [Int.toNat_of_nonneg (by omega)]
      rw [← Int.cast_natCast, hnat, signed]
    rw [hcompare, hvalue]
    exact rounds_round _ (by omega)

theorem signed_mul (s s' : Sign) (a b : ℚ) : signed s a * signed s' b = signed (s * s') (a * b) :=
  match s, s' with
  | .negative, .negative => neg_mul_neg a b
  | .negative, .positive => neg_mul a b
  | .positive, .negative => mul_neg a b
  | .positive, .positive => rfl

variable {s s' : Sign} {m' : ℕ} {e' : ℤ} {hm : 0 < m} {hm' : 0 < m'}

theorem rounds_mul (h : IsCanonical (.finite s m e hm)) (h' : IsCanonical (.finite s' m' e' hm')) :
    Rounds (UnpackedFloat.mul Format.binary64 (.finite s m e hm) (.finite s' m' e' hm'))
      (rational (.finite s m e hm) * rational (.finite s' m' e' hm')) := by
  have hvalue : rational (.finite s m e hm) * rational (.finite s' m' e' hm') =
      signed (s * s') ((m * m' : ℕ) * 2 ^ (e + e')) := by
    rw [rational_finite, rational_finite, signed_mul, zpow_add₀ two_ne_zero, Nat.cast_mul,
      mul_mul_mul_comm]
  rw [hvalue, UnpackedFloat.mul]
  refine rounds_roundWithAccuracy _ (Nat.mul_pos hm hm') ?_
  -- Two mantissas of fewer bits have the least exponents, and then the product has room.
  rcases lt_or_ge (-1074) (e + e') with hlt | hge
  · have hfull : 2 ^ 52 ≤ m * m' := by
      obtain hm52 | hm52 : 2 ^ 52 ≤ m ∨ 2 ^ 52 ≤ m' := by
        obtain ⟨-, hmin, hleast⟩ := h
        obtain ⟨-, hmin', hleast'⟩ := h'
        omega
      · exact hm52.trans (Nat.le_mul_of_pos_right m hm')
      · exact hm52.trans (Nat.le_mul_of_pos_left m' hm)
    have hlog : 52 ≤ (m * m').log2 := (Nat.le_log2 (Nat.mul_pos hm hm').ne').mpr hfull
    omega
  · omega

theorem apply_shiftLeft (s : Sign) (hm : 0 < m) {t : ℤ} (h : t ≤ e) :
    ((s.apply (m <<< (e - t).toNat : ℕ) : ℤ) : ℚ) * 2 ^ t = rational (.finite s m e hm) := by
  have he : e = (e - t).toNat + t := by omega
  have hvalue : ((m <<< (e - t).toNat : ℕ) : ℚ) * 2 ^ t = m * 2 ^ e := by
    conv_rhs => rw [he, zpow_add₀ two_ne_zero, zpow_natCast]
    rw [Nat.shiftLeft_eq]
    push_cast
    ring
  rw [rational_finite, ← hvalue]
  generalize m <<< (e - t).toNat = n
  cases s <;> simp [Sign.apply, signed]

theorem rounds_add : Rounds
    (UnpackedFloat.add Format.binary64 (.finite s m e hm) (.finite s' m' e' hm'))
    (rational (.finite s m e hm) + rational (.finite s' m' e' hm')) := by
  rw [UnpackedFloat.add, ← apply_shiftLeft s hm (min_le_left e e'),
    ← apply_shiftLeft s' hm' (min_le_right e e'), ← add_mul, ← Int.cast_add]
  exact rounds_normalize _ _ _

theorem le_exponent_iff (h : IsCanonical (.finite s m e hm)) :
    972 ≤ e ↔ (2 : ℚ) ^ 1024 ≤ m * 2 ^ e := by
  obtain ⟨hbits, hmin, hleast⟩ := h
  constructor
  · intro hgreat
    have hm52 : (2 : ℚ) ^ 52 ≤ m := by exact_mod_cast hleast.resolve_left (by omega)
    calc (2 : ℚ) ^ 1024 = 2 ^ 52 * 2 ^ (972 : ℤ) := by rw [zpow_ofNat, ← pow_add]
      _ ≤ (m : ℚ) * 2 ^ e := by
          gcongr
          exact one_le_two
  · intro hle
    by_contra hless
    refine absurd hle (not_le.mpr ?_)
    have hm53 : (m : ℚ) < 2 ^ 53 := by exact_mod_cast hbits
    have hpos := zpow_pos_two e
    calc (m : ℚ) * 2 ^ e < 2 ^ 53 * 2 ^ e := by gcongr
      _ ≤ 2 ^ 53 * 2 ^ (971 : ℤ) := by
          gcongr
          exacts [one_le_two, by omega]
      _ = 2 ^ 1024 := by rw [zpow_ofNat, ← pow_add]

theorem rounds_self (h : IsCanonical (.finite s m e hm)) :
    Rounds (.finite s m e hm) (rational (.finite s m e hm)) := by
  have hround : Ratio.round ⟨m, 2 ^ 0⟩ = m := by simp [Ratio.round, Nat.mod_one]
  have hexact := (isRounding_round (d := 0) h.1 h.2.2).signed s
  rw [hround, pow_zero, div_one, ← rational_finite s hm] at hexact
  exact ⟨rfl, h, hexact⟩

theorem representable_rational (h : IsCanonical (.finite s m e hm)) :
    Representable (rational (.finite s m e hm)) := by
  obtain ⟨hbits, hmin, -⟩ := h
  have hnat : Representable (m * 2 ^ e) :=
    ⟨m, e, by rw [Nat.abs_cast]; exact_mod_cast hbits, hmin, by simp⟩
  cases s
  · exact hnat.neg
  · exact hnat

def settle : UnpackedFloat → UnpackedFloat
  | .finite s m e h => if 972 ≤ e then .infinity s else .finite s m e h
  | u => u

section Packing

variable (s : Sign) (e : BitVec 11) (f : BitVec 52)

theorem toNat_one_append : (1#1 ++ f).toNat = 2 ^ 52 + f.toNat := by
  rw [BitVec.toNat_append, ← Nat.shiftLeft_add_eq_or_of_lt f.isLt]
  rfl

theorem unpack_infinity :
    UnpackedFloat.unpack Format.binary64 (packComponents Format.binary64 s (-1#11) 0#52) =
      .infinity s := by
  simp only [UnpackedFloat.unpack, unpackMantissa_packComponents, unpackExponent_packComponents,
    unpackSign_packComponents, Sign.ofBitVec_toBitVec, if_true]

theorem unpack_zero :
    UnpackedFloat.unpack Format.binary64 (packComponents Format.binary64 s 0#11 0#52) = .zero s := by
  have hexponent : ¬(0#11 = -1#11) := by decide
  simp only [UnpackedFloat.unpack, unpackMantissa_packComponents, unpackExponent_packComponents,
    unpackSign_packComponents, Sign.ofBitVec_toBitVec, hexponent, if_true, if_false, dif_pos]

variable {s e f} {m : ℕ} {t : ℤ}

theorem unpack_small (hm : 0 < m) (hf : f.toNat = m) :
    UnpackedFloat.unpack Format.binary64 (packComponents Format.binary64 s 0#11 f) =
      .finite s m (-1074) hm := by
  have hexponent : ¬(0#11 = -1#11) := by decide
  have hzero : ¬f = 0#52 := by
    rintro rfl
    exact hm.ne hf
  subst hf
  simp only [UnpackedFloat.unpack, unpackMantissa_packComponents, unpackExponent_packComponents,
    unpackSign_packComponents, Sign.ofBitVec_toBitVec, hexponent, if_false, dif_neg hzero]
  rfl

theorem unpack_normal (hm : 0 < m) (hf : 2 ^ 52 + f.toNat = m) (he : e.toNat = t + 1075)
    (hleast : e.toNat ≠ 0) (hmost : e.toNat ≠ 2047) :
    UnpackedFloat.unpack Format.binary64 (packComponents Format.binary64 s e f) =
      .finite s m t hm := by
  have hzero : ¬e = 0#11 := by
    rintro rfl
    exact hleast rfl
  have hones : ¬e = -1#11 := by
    rintro rfl
    exact hmost rfl
  have ht : (e.toNat : ℤ) - 1075 = t := by omega
  subst hf ht
  simp only [UnpackedFloat.unpack, unpackMantissa_packComponents, unpackExponent_packComponents,
    unpackSign_packComponents, Sign.ofBitVec_toBitVec, hzero, hones, if_false, toNat_one_append]
  rfl

end Packing

theorem unpack_pack {u : UnpackedFloat} (h : IsCanonical u) :
    UnpackedFloat.unpack Format.binary64 (UnpackedFloat.pack Format.binary64 u) = settle u := by
  cases u with
  | infinity s => exact unpack_infinity s
  | notANumber => rfl
  | zero s => exact unpack_zero s
  | finite s m e hm =>
    obtain ⟨hbits, hmin, hleast⟩ := h
    rw [UnpackedFloat.pack, settle]
    split
    · rename_i hover
      replace hover : 2 ^ 11 ≤ (e + (1023 : ℕ) + (52 : ℕ)).toNat + 1 := hover
      have hgreat : 972 ≤ e := by omega
      rw [if_pos hgreat]
      exact unpack_infinity s
    · rename_i hover
      replace hover : ¬2 ^ 11 ≤ (e + (1023 : ℕ) + (52 : ℕ)).toNat + 1 := hover
      have hbiased : (e + (1023 : ℕ) + (52 : ℕ)).toNat = e + 1075 := by omega
      have hfits : ¬972 ≤ e := by omega
      rw [if_neg hfits]
      split
      · rename_i hlog
        replace hlog : m.log2 + 1 = 1 + 52 := hlog
        have hnormal : 2 ^ 52 ≤ m := (Nat.le_log2 hm.ne').mp (by omega)
        have hexponent : (BitVec.ofNat 11 (e + (1023 : ℕ) + (52 : ℕ)).toNat).toNat =
            (e + (1023 : ℕ) + (52 : ℕ)).toNat := by
          rw [BitVec.toNat_ofNat]
          omega
        have hmantissa : 2 ^ 52 + (BitVec.ofNat 52 m).toNat = m := by
          rw [BitVec.toNat_ofNat]
          omega
        have hnonzero : (e + (1023 : ℕ) + (52 : ℕ)).toNat ≠ 0 := by omega
        have hbelow : (e + (1023 : ℕ) + (52 : ℕ)).toNat ≠ 2047 := by omega
        rw [← hexponent] at hbiased hnonzero hbelow
        exact unpack_normal hm hmantissa hbiased hnonzero hbelow
      · rename_i hlog
        replace hlog : ¬m.log2 + 1 = 1 + 52 := hlog
        have hsmall : m < 2 ^ 52 := (Nat.log2_lt hm.ne').mp
          (by have := (Nat.log2_lt hm.ne').mpr hbits; omega)
        have hmantissa : (BitVec.ofNat 52 m).toNat = m := by
          rw [BitVec.toNat_ofNat]
          omega
        obtain rfl : e = -1074 := hleast.resolve_right (not_le.mpr hsmall)
        exact unpack_small hm hmantissa

theorem isCanonical_unpack (b : BitVec 64) :
    IsCanonical (UnpackedFloat.unpack Format.binary64 b) ∧
      settle (UnpackedFloat.unpack Format.binary64 b) = UnpackedFloat.unpack Format.binary64 b := by
  have hf : (@unpackMantissa Format.binary64 b).toNat < 2 ^ 52 :=
    (@unpackMantissa Format.binary64 b).isLt
  have he : (@unpackExponent Format.binary64 b).toNat < 2 ^ 11 :=
    (@unpackExponent Format.binary64 b).isLt
  have hbias : ((Format.binary64.exponentBias : ℤ) + (52 : ℕ)) = 1075 := rfl
  rw [UnpackedFloat.unpack]
  simp only [toNat_one_append, hbias]
  split
  · split <;> exact ⟨trivial, rfl⟩
  · rename_i hones
    split
    · rename_i hzero
      split
      · exact ⟨trivial, rfl⟩
      · have hexponent : (@unpackExponent Format.binary64 b).toNat = 0 := by rw [hzero]; rfl
        refine ⟨⟨hf.trans (by decide), by omega, .inl (by omega)⟩, ?_⟩
        rw [settle, if_neg (by omega)]
    · rename_i hzero
      have hleast : 0 < (@unpackExponent Format.binary64 b).toNat :=
        Nat.pos_of_ne_zero fun h ↦ hzero (BitVec.eq_of_toNat_eq h)
      have hmost : (@unpackExponent Format.binary64 b).toNat ≠ 2047 := fun h ↦
        hones (BitVec.eq_of_toNat_eq h)
      refine ⟨⟨by omega, by omega, .inr (Nat.le_add_right _ _)⟩, ?_⟩
      rw [settle, if_neg (by omega)]

end PackageAudit.Decimal
