import PackageAudit.Proofs.Decimal.Double
import PackageAudit.Proofs.Risk.Exact

namespace PackageAudit.Risk.Exact

open Float.Model Float.Model.UnpackedFloat
open Decimal

def isMinus : Sign → Bool
  | .negative => true
  | .positive => false

theorem isMinus_mul (s s' : Sign) : isMinus (s * s') = (isMinus s != isMinus s') := by
  cases s <;> cases s' <;> rfl

def ofUnpacked : UnpackedFloat → Exact
  | .infinity s => .infinity (isMinus s)
  | .notANumber => .undefined
  | u => .rational (Decimal.rational u)

def ofFloat (x : Float) : Exact := ofUnpacked x.toModel.unpack

/-- What a double holds after an exact result is rounded. -/
inductive Nearest : Exact → Exact → Prop
  | undefined : Nearest .undefined .undefined
  | infinity (negative : Bool) : Nearest (.infinity negative) (.infinity negative)
  | rational {q v : ℚ} : IsRounding q v → |q| < limit → Nearest (.rational q) (.rational v)
  | above {q : ℚ} : limit ≤ q → Nearest (.rational q) (.infinity false)
  | below {q : ℚ} : q ≤ -limit → Nearest (.rational q) (.infinity true)

theorem abs_signed (s : Sign) (q : ℚ) : |signed s q| = |q| := by
  cases s
  · exact abs_neg q
  · rfl

theorem rational_neg_iff {s : Sign} {m : ℕ} {e : ℤ} (hm : 0 < m) :
    Decimal.rational (.finite s m e hm) < 0 ↔ isMinus s = true := by
  have hpos : (0 : ℚ) < m * 2 ^ e := mul_pos (Nat.cast_pos.mpr hm) (zpow_pos_two e)
  cases s
  · exact iff_of_true (neg_lt_zero.mpr hpos) rfl
  · exact iff_of_false (not_lt.mpr hpos.le) Bool.false_ne_true

theorem rational_ne_zero {s : Sign} {m : ℕ} {e : ℤ} (hm : 0 < m) :
    Decimal.rational (.finite s m e hm) ≠ 0 := by
  have hpos : (0 : ℚ) < m * 2 ^ e := mul_pos (Nat.cast_pos.mpr hm) (zpow_pos_two e)
  cases s
  · exact (neg_lt_zero.mpr hpos).ne
  · exact hpos.ne'

theorem nearest_of_rounds {u : UnpackedFloat} {q : ℚ} (h : Rounds u q) :
    Nearest (.rational q) (ofUnpacked (settle u)) := by
  obtain ⟨hfinite, hcanonical, hrounding⟩ := h
  have hnear : ∀ {v : ℚ}, IsRounding q v → |v| < 2 ^ 1024 → Nearest (.rational q) (.rational v) := by
    intro v hrounding hv
    rw [abs_lt] at hv
    have hlow := not_le.mp (mt hrounding.underflow_iff.mpr (not_le.mpr hv.1))
    have hhigh := not_le.mp (mt hrounding.overflow_iff.mpr (not_le.mpr hv.2))
    exact .rational hrounding (abs_lt.mpr ⟨hlow, hhigh⟩)
  cases u with
  | infinity s => cases hfinite
  | notANumber => cases hfinite
  | zero s =>
    have hzero : |Decimal.rational (.zero s)| < 2 ^ 1024 := by
      change |(0 : ℚ)| < 2 ^ 1024
      rw [abs_zero]
      positivity
    exact hnear hrounding hzero
  | finite s m e hm =>
    rw [settle]
    split
    · rename_i hgreat
      have hbig := (le_exponent_iff hcanonical).mp hgreat
      cases s with
      | positive => exact .above (hrounding.overflow_iff.mp hbig)
      | negative => exact .below (hrounding.underflow_iff.mp (neg_le_neg hbig))
    · rename_i hfits
      have hsmall := not_le.mp (mt (le_exponent_iff hcanonical).mpr hfits)
      refine hnear hrounding ?_
      rw [rational_finite, abs_signed]
      rwa [abs_of_pos (mul_pos (Nat.cast_pos.mpr hm) (zpow_pos_two e))]

theorem nearest_zero {q : ℚ} (hq : q = 0) : Nearest (.rational q) (.rational 0) := by
  rw [hq]
  exact .rational isRounding_zero (by rw [abs_zero]; exact limit_pos)

section Operations

variable {u v : UnpackedFloat} (hu : IsCanonical u) (hv : IsCanonical v)

theorem infinity_mul_finite (s s' : Sign) {m : ℕ} (e : ℤ) (hm : 0 < m) :
    Exact.infinity (isMinus s) * Exact.rational (Decimal.rational (.finite s' m e hm)) =
      .infinity (isMinus (s * s')) := by
  have hminus : decide (Decimal.rational (.finite s' m e hm) < 0) = isMinus s' := by
    rw [Bool.eq_iff_iff, decide_eq_true_iff, rational_neg_iff]
  have hmul : Exact.infinity (isMinus s) * Exact.rational (Decimal.rational (.finite s' m e hm)) =
      if Decimal.rational (.finite s' m e hm) = 0 then Exact.undefined
      else .infinity (isMinus s != decide (Decimal.rational (.finite s' m e hm) < 0)) := rfl
  rw [hmul, if_neg (rational_ne_zero hm), hminus, isMinus_mul]

theorem rational_mul_infinity (q : ℚ) (negative : Bool) :
    Exact.rational q * .infinity negative = .infinity negative * .rational q := rfl

include hu hv in
theorem nearest_mul : IsCanonical (UnpackedFloat.mul Format.binary64 u v) ∧
    Nearest (ofUnpacked u * ofUnpacked v)
      (ofUnpacked (settle (UnpackedFloat.mul Format.binary64 u v))) := by
  cases u with
  | notANumber => cases v <;> exact ⟨trivial, .undefined⟩
  | infinity s =>
    cases v with
    | notANumber => exact ⟨trivial, .undefined⟩
    | infinity s' =>
      refine ⟨trivial, ?_⟩
      have hmul : ofUnpacked (.infinity s) * ofUnpacked (.infinity s') =
          .infinity (isMinus s != isMinus s') := rfl
      rw [hmul, ← isMinus_mul]
      exact .infinity _
    | zero s' => exact ⟨trivial, .undefined⟩
    | finite s' m' e' hm' =>
      refine ⟨trivial, ?_⟩
      have hmul := infinity_mul_finite s s' e' hm'
      exact hmul ▸ .infinity _
  | zero s =>
    cases v with
    | notANumber => exact ⟨trivial, .undefined⟩
    | infinity s' => exact ⟨trivial, .undefined⟩
    | zero s' => exact ⟨trivial, nearest_zero (zero_mul 0)⟩
    | finite s' m' e' hm' => exact ⟨trivial, nearest_zero (zero_mul _)⟩
  | finite s m e hm =>
    cases v with
    | notANumber => exact ⟨trivial, .undefined⟩
    | infinity s' =>
      refine ⟨trivial, ?_⟩
      have hmul := infinity_mul_finite s' s e hm
      have hcomm : s' * s = s * s' := by cases s <;> cases s' <;> rfl
      rw [← rational_mul_infinity, hcomm] at hmul
      exact hmul ▸ .infinity _
    | zero s' => exact ⟨trivial, nearest_zero (mul_zero _)⟩
    | finite s' m' e' hm' =>
      have h := rounds_mul hu hv
      exact ⟨h.isCanonical, nearest_of_rounds h⟩

include hu hv in
theorem nearest_add : IsCanonical (UnpackedFloat.add Format.binary64 u v) ∧
    Nearest (ofUnpacked u + ofUnpacked v)
      (ofUnpacked (settle (UnpackedFloat.add Format.binary64 u v))) := by
  cases u with
  | notANumber => cases v <;> exact ⟨trivial, .undefined⟩
  | infinity s =>
    cases v with
    | notANumber => exact ⟨trivial, .undefined⟩
    | infinity s' => cases s <;> cases s' <;> exact ⟨trivial, by constructor⟩
    | zero s' => exact ⟨trivial, .infinity _⟩
    | finite s' m' e' hm' => exact ⟨trivial, .infinity _⟩
  | zero s =>
    cases v with
    | notANumber => exact ⟨trivial, .undefined⟩
    | infinity s' => exact ⟨trivial, .infinity _⟩
    | zero s' => cases s <;> cases s' <;> exact ⟨trivial, nearest_zero (zero_add 0)⟩
    | finite s' m' e' hm' =>
      have h := rounds_self hv
      rw [← zero_add (Decimal.rational _)] at h
      exact ⟨h.isCanonical, nearest_of_rounds h⟩
  | finite s m e hm =>
    cases v with
    | notANumber => exact ⟨trivial, .undefined⟩
    | infinity s' => exact ⟨trivial, .infinity _⟩
    | zero s' =>
      have h := rounds_self hu
      rw [← add_zero (Decimal.rational _)] at h
      exact ⟨h.isCanonical, nearest_of_rounds h⟩
    | finite s' m' e' hm' =>
      have h : Rounds (UnpackedFloat.add Format.binary64 (.finite s m e hm)
        (.finite s' m' e' hm')) _ := rounds_add
      exact ⟨h.isCanonical, nearest_of_rounds h⟩

end Operations

theorem ofFloat_pack {u : UnpackedFloat} (h : IsCanonical u) :
    ofFloat (.ofModel (.pack u)) = ofUnpacked (settle u) := congrArg ofUnpacked (unpack_pack h)

theorem isCanonical_ofFloat (x : Float) : IsCanonical x.toModel.unpack := (isCanonical_unpack _).1

theorem nearest_float_mul (x y : Float) : Nearest (ofFloat x * ofFloat y) (ofFloat (x * y)) := by
  have h := nearest_mul (isCanonical_ofFloat x) (isCanonical_ofFloat y)
  have hmul : ofFloat (x * y) = _ := ofFloat_pack h.1
  exact hmul ▸ h.2

theorem nearest_float_add (x y : Float) : Nearest (ofFloat x + ofFloat y) (ofFloat (x + y)) := by
  have h := nearest_add (isCanonical_ofFloat x) (isCanonical_ofFloat y)
  have hadd : ofFloat (x + y) = _ := ofFloat_pack h.1
  exact hadd ▸ h.2

theorem isNaN_iff (x : Float) : x.isNaN = true ↔ ofFloat x = .undefined := by
  have hnan : x.isNaN = x.toModel.unpack.isNaN := rfl
  rw [hnan, ofFloat]
  cases x.toModel.unpack <;> simp [UnpackedFloat.isNaN, ofUnpacked]

theorem isFinite_iff (x : Float) : x.isFinite = true ↔ ∃ q, ofFloat x = .rational q := by
  have hfinite : x.isFinite = x.toModel.unpack.isFinite := rfl
  rw [hfinite, ofFloat]
  cases x.toModel.unpack <;> simp [UnpackedFloat.isFinite, ofUnpacked]

theorem isInf_iff (x : Float) : x.isInf = true ↔ ∃ negative, ofFloat x = .infinity negative := by
  have hinf : x.isInf = x.toModel.unpack.isInf := rfl
  rw [hinf, ofFloat]
  cases x.toModel.unpack <;> simp [UnpackedFloat.isInf, ofUnpacked]

def neg : Exact → Exact
  | .infinity negative => .infinity (!negative)
  | .rational q => .rational (-q)
  | .undefined => .undefined

theorem settle_neg (u : UnpackedFloat) : settle u.neg = (settle u).neg := by
  cases u with
  | finite s m e h =>
    rw [UnpackedFloat.neg, settle, settle]
    split <;> rfl
  | _ => rfl

theorem isCanonical_neg {u : UnpackedFloat} (h : IsCanonical u) : IsCanonical u.neg := by
  cases u <;> exact h

theorem ofUnpacked_neg (u : UnpackedFloat) : ofUnpacked u.neg = neg (ofUnpacked u) := by
  cases u with
  | infinity s => cases s <;> rfl
  | notANumber => rfl
  | zero s => exact congrArg Exact.rational neg_zero.symm
  | finite s m e h =>
    cases s
    · exact congrArg Exact.rational (neg_neg _).symm
    · rfl

theorem Nearest.neg {x y : Exact} (h : Nearest x y) : Nearest (neg x) (neg y) := by
  cases h with
  | undefined => exact .undefined
  | infinity negative => exact .infinity _
  | rational h hq => exact .rational h.neg (by rwa [abs_neg])
  | above h => exact .below (neg_le_neg h)
  | below h => exact .above (le_neg.mpr h)

theorem representable_natCast {n : ℕ} (h : n < 2 ^ 53) : Representable n :=
  ⟨n, 0, by rw [Nat.abs_cast]; exact_mod_cast h, by decide, by simp⟩

theorem Nearest.eq_of_representable {q : ℚ} {y : Exact} (h : Nearest (.rational q) y)
    (hq : Representable q) (hlimit : |q| < limit) : y = .rational q := by
  rw [abs_lt] at hlimit
  cases h with
  | rational hrounding _ => rw [hrounding.eq_of_representable hq]
  | above h => exact absurd h (not_le.mpr hlimit.2)
  | below h => exact absurd h (not_le.mpr hlimit.1)

theorem rounds_ofScientific {n : ℕ} (hn : 0 < n) :
    Rounds (UnpackedFloat.ofScientific Format.binary64 n 0) n := by
  have hshift : 0 < n <<< 53 * 10 ^ 0 := by
    rw [Nat.shiftLeft_eq]
    positivity
  have hvalue : signed .positive (((n <<< 53 * 10 ^ 0 : ℕ) : ℚ) * 2 ^ (-53 : ℤ)) = n := by
    rw [signed, Nat.shiftLeft_eq]
    have hpow : (2 : ℚ) ^ (-53 : ℤ) = (2 ^ 53)⁻¹ := by rw [zpow_neg, zpow_ofNat]
    rw [hpow, pow_zero, mul_one]
    push_cast
    exact mul_inv_cancel_right₀ (by positivity) _
  have hlog : (n <<< 53 * 10 ^ 0).log2 = n.log2 + 53 := by
    rw [pow_zero, mul_one, log2_shiftLeft hn]
  have hrounds := rounds_roundWithAccuracy (e := -53) .positive hshift (by omega)
  rw [hvalue] at hrounds
  have hbelow : ¬(0 : ℤ) > 2 ^ Format.binary64.exponentBits := by decide
  have habove : ¬(0 : ℤ) < -((2 ^ Format.binary64.exponentBits : ℤ) + n.log2) := by
    change ¬(0 : ℤ) < -((2 ^ 11 : ℤ) + n.log2)
    omega
  rw [UnpackedFloat.ofScientific, dif_neg hn.ne', if_neg hbelow, if_neg habove, if_pos le_rfl]
  exact hrounds

theorem nearest_ofScientific {n : ℕ} (hn : 0 < n) :
    Nearest (.rational n) (ofFloat (Float.ofScientific n false 0)) := by
  rw [Float.ofScientific]
  -- A small number is an exact double times one; the other branch rounds its digits.
  split
  · rename_i h
    have hone : ofFloat (Float.ofBits 0x3FF0000000000000) = .rational 1 := by decide +kernel
    have hcast : ofFloat n.toUInt64.toFloat = .rational n := by
      have hword : n.toUInt64.toNat = n := Nat.mod_eq_of_lt (h.1.trans (by decide))
      have hvalue : ((n.toUInt64.toNat : ℤ) : ℚ) * 2 ^ (0 : ℤ) = n := by
        rw [hword, zpow_zero, mul_one, Int.cast_natCast]
      have hrounds : Rounds (UnpackedFloat.ofUInt64 Format.binary64 n.toUInt64) n :=
        hvalue ▸ rounds_normalize _ 0 .positive
      have hpack : ofFloat n.toUInt64.toFloat = _ := ofFloat_pack hrounds.isCanonical
      rw [hpack]
      refine (nearest_of_rounds hrounds).eq_of_representable (representable_natCast h.1) ?_
      have hsmall : (n : ℚ) < 2 ^ 53 := by exact_mod_cast h.1
      rw [Nat.abs_cast]
      exact hsmall.trans ((pow_lt_pow_right₀ one_lt_two (by decide)).trans lt_limit)
    have hmul := nearest_float_mul n.toUInt64.toFloat (Float.ofBits 0x3FF0000000000000)
    rw [hcast, hone] at hmul
    have hexact : Exact.rational n * Exact.rational 1 = .rational n :=
      congrArg Exact.rational (mul_one _)
    rw [hexact] at hmul
    exact hmul
  · have hrounds := rounds_ofScientific hn
    have hpack : ofFloat (.ofModel (Float.Model.ofScientific n 0)) = _ :=
      ofFloat_pack hrounds.isCanonical
    have hnear := nearest_of_rounds hrounds
    rw [← hpack] at hnear
    exact hnear

theorem limit_le_ten_pow : limit ≤ 10 ^ 400 := by
  refine limit_le.trans ?_
  calc (2 : ℚ) ^ 1024 = (2 ^ 64) ^ 16 := by rw [← pow_mul]
    _ ≤ (10 ^ 25) ^ 16 := by
        gcongr
        norm_num
    _ = 10 ^ 400 := by rw [← pow_mul]

theorem nearest_natCast (n : ℕ) : Nearest (.rational n) (ofFloat (Decimal.ofDecimal n 0)) := by
  rw [ofDecimal]
  simp only [add_zero, le_refl, if_true]
  split
  · rename_i h
    have hzero : n = 0 := by
      rw [Bool.or_eq_true, decide_eq_true_iff, decide_eq_true_iff] at h
      omega
    have hfloat : ofFloat 0 = .rational 0 := by decide +kernel
    rw [hfloat]
    exact nearest_zero (by rw [hzero, Nat.cast_zero])
  · rename_i h
    rw [Bool.or_eq_true, decide_eq_true_iff, decide_eq_true_iff, not_or] at h
    split
    · rename_i hlong
      have hfloat : ofFloat (1 / 0) = .infinity false := by decide +kernel
      have hbig : 10 ^ 400 ≤ n := by
        rw [← not_lt, ← Nat.length_toDigits_le_iff (by decide) (by decide)]
        rw [Ratio.digitCount] at hlong
        omega
      rw [hfloat]
      exact .above (limit_le_ten_pow.trans (by exact_mod_cast hbig))
    · exact nearest_ofScientific (Nat.pos_of_ne_zero h.1)

theorem ofFloat_neg (x : Float) : ofFloat (-x) = neg (ofFloat x) := by
  have hcanonical : IsCanonical x.toModel.unpack := (isCanonical_unpack _).1
  have hsettled : settle x.toModel.unpack = x.toModel.unpack := (isCanonical_unpack _).2
  have hpack : ofFloat (-x) = _ := ofFloat_pack (isCanonical_neg hcanonical)
  rw [hpack, settle_neg, hsettled, ofUnpacked_neg]
  rfl

theorem nearest_intCast (n : ℤ) : Nearest (.rational n) (ofFloat (n : Float)) := by
  have hcast : (n : Float) =
      if n < 0 then -Decimal.ofDecimal n.natAbs 0 else Decimal.ofDecimal n.natAbs 0 := rfl
  have hnear := nearest_natCast n.natAbs
  rw [hcast]
  split
  · have hvalue : (n : ℚ) = -(n.natAbs : ℕ) := by
      have habs : n = -(n.natAbs : ℤ) := by omega
      exact_mod_cast congrArg (Int.cast : ℤ → ℚ) habs
    rw [ofFloat_neg, hvalue]
    exact hnear.neg
  · have hvalue : (n : ℚ) = (n.natAbs : ℕ) := by
      have habs : n = (n.natAbs : ℤ) := by omega
      exact (congrArg (Int.cast : ℤ → ℚ) habs).trans (Int.cast_natCast _)
    rw [hvalue]
    exact hnear

theorem compare_swap (u v : UnpackedFloat) :
    UnpackedFloat.compare v u = (UnpackedFloat.compare u v).map Ordering.swap := by
  have hordering : ∀ (e e' : ℤ) (m m' : ℕ), (compare e' e).then (compare m' m) =
      ((compare e e').then (compare m m')).swap := by
    intro e e' m m'
    rw [Ordering.swap_then, ← Std.OrientedCmp.eq_swap, ← Std.OrientedCmp.eq_swap]
  -- Kinds and signs decide, except between two finite numbers of one sign.
  rcases u with ⟨_ | _⟩ | _ | ⟨_ | _⟩ | ⟨_ | _, m, e, hm⟩ <;>
    rcases v with ⟨_ | _⟩ | _ | ⟨_ | _⟩ | ⟨_ | _, m', e', hm'⟩ <;> first
    | rfl
    | exact congrArg some (hordering e e' m m')
    | exact congrArg (fun o ↦ some (Ordering.swap o)) (hordering e e' m m')

theorem compare_eq_none_iff (u v : UnpackedFloat) :
    UnpackedFloat.compare u v = none ↔ u.isNaN = true ∨ v.isNaN = true := by
  rcases u with ⟨_ | _⟩ | _ | ⟨_ | _⟩ | ⟨_ | _, m, e, hm⟩ <;>
    rcases v with ⟨_ | _⟩ | _ | ⟨_ | _⟩ | ⟨_ | _, m', e', hm'⟩ <;>
    simp [UnpackedFloat.compare, UnpackedFloat.isNaN]

theorem le_iff (x y : Float) : x ≤ y ↔ (x.isNaN = false ∧ y.isNaN = false) ∧ ¬y < x := by
  have hle : x ≤ y ↔
      (UnpackedFloat.compare x.toModel.unpack y.toModel.unpack).any (·.isLE) = true :=
    decide_eq_true_iff
  have hlt : y < x ↔ UnpackedFloat.compare y.toModel.unpack x.toModel.unpack = some .lt :=
    decide_eq_true_iff.trans beq_iff_eq
  have hnan := compare_eq_none_iff x.toModel.unpack y.toModel.unpack
  have hx : x.isNaN = x.toModel.unpack.isNaN := rfl
  have hy : y.isNaN = y.toModel.unpack.isNaN := rfl
  rw [hle, hlt, compare_swap x.toModel.unpack, hx, hy]
  rcases hcompare : UnpackedFloat.compare x.toModel.unpack y.toModel.unpack with _ | o
  · obtain h | h := hnan.mp hcompare <;> simp [h]
  · rw [hcompare] at hnan
    have hnumbers := not_or.mp (mt hnan.mpr nofun)
    rw [Bool.not_eq_true, Bool.not_eq_true] at hnumbers
    cases o <;> simp [hnumbers]

theorem unpack_of_ofFloat_zero {x : Float} (h : ofFloat x = .rational 0) :
    ∃ s, x.toModel.unpack = .zero s := by
  rw [ofFloat] at h
  cases hu : x.toModel.unpack with
  | zero s => exact ⟨s, rfl⟩
  | finite s m e hm =>
    rw [hu] at h
    exact absurd (Exact.rational.inj h) (rational_ne_zero hm)
  | _ =>
    rw [hu] at h
    cases h

theorem beq_zero_iff (x : Float) : (x == 0) = true ↔ ofFloat x = .rational 0 := by
  have hbeq : (x == 0) =
      (UnpackedFloat.compare x.toModel.unpack (0 : Float).toModel.unpack == some .eq) := rfl
  have hzero : ofFloat 0 = .rational 0 := by decide +kernel
  obtain ⟨s, hs⟩ := unpack_of_ofFloat_zero hzero
  rw [hbeq, beq_iff_eq, hs]
  constructor
  · intro h
    rw [ofFloat]
    generalize x.toModel.unpack = u at h
    rcases u with ⟨_ | _⟩ | _ | ⟨_ | _⟩ | ⟨_ | _, m, e, hm⟩ <;> first
      | rfl
      | cases h
  · intro h
    obtain ⟨s', hs'⟩ := unpack_of_ofFloat_zero h
    rw [hs']
    rfl

end PackageAudit.Risk.Exact
