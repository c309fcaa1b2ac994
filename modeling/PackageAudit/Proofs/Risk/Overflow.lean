import PackageAudit.Proofs.Risk.Double

namespace PackageAudit.Risk

open Decimal

namespace Exact

/-- An exact number in the range of the doubles, else an infinity. -/
def saturated (q : ℚ) : Exact :=
  if limit ≤ q then .infinity false else if q ≤ -limit then .infinity true else .rational q

/-- A number between two bounds, or an infinity that the bounds allow. -/
inductive Within (low high : ℚ) : Exact → Prop
  | rational {q : ℚ} : low ≤ q → q ≤ high → Within low high (.rational q)
  | above : limit ≤ high → Within low high (.infinity false)
  | below : low ≤ -limit → Within low high (.infinity true)

variable {q low high : ℚ} {x y z : Exact}

theorem Nearest.eq_saturated (h : Nearest (.rational q) y) (hq : Representable q) :
    y = saturated q := by
  rw [saturated]
  cases h with
  | rational hrounding hlimit =>
    rw [abs_lt] at hlimit
    rw [if_neg (not_le.mpr hlimit.2), if_neg (not_le.mpr hlimit.1),
      hrounding.eq_of_representable hq]
  | above h => rw [if_pos h]
  | below h =>
    have hnegative : ¬limit ≤ q := not_le.mpr (h.trans_lt (by linarith only [limit_pos]))
    rw [if_neg hnegative, if_pos h]

theorem Nearest.within (h : Nearest (.rational q) y) (hlow : Representable low)
    (hhigh : Representable high) (hlowq : low ≤ q) (hqhigh : q ≤ high) : Within low high y := by
  cases h with
  | rational hrounding _ =>
    exact .rational (hrounding.ge_of_ge _ hlow hlowq) (hrounding.le_of_le _ hhigh hqhigh)
  | above h => exact .above (h.trans hqhigh)
  | below h => exact .below (hlowq.trans h)

/-- The bounds allow no infinities of opposite signs. -/
structure Apart (low high low' high' : ℚ) : Prop where
  not_above : ¬(limit ≤ high ∧ low' ≤ -limit)
  not_below : ¬(low ≤ -limit ∧ limit ≤ high')

variable {low' high' : ℚ}

/-- Bounds that a sum does not keep to, but which its infinities tell apart. -/
structure Bounded (low high : ℚ) (x : Exact) : Prop where
  ne_undefined : x ≠ .undefined
  above : x = .infinity false → limit ≤ high
  below : x = .infinity true → low ≤ -limit

theorem Within.bounded (h : Within low high x) : Bounded low high x := by
  cases h with
  | rational hlow hhigh => exact ⟨nofun, nofun, nofun⟩
  | above h => exact ⟨nofun, fun _ ↦ h, nofun⟩
  | below h => exact ⟨nofun, nofun, fun _ ↦ h⟩

theorem Nearest.eq_undefined (h : Nearest x .undefined) : x = .undefined := by
  cases h
  rfl

theorem Bounded.ne_undefined_of_add (hx : Bounded low high x) (hy : Bounded low' high' y)
    (hapart : Apart low high low' high') (hz : Nearest (x + y) z) : z ≠ .undefined := by
  rintro rfl
  have hsum := hz.eq_undefined
  cases x with
  | undefined => exact hx.ne_undefined rfl
  | rational q =>
    cases y with
    | undefined => exact hy.ne_undefined rfl
    | _ => cases hsum
  | infinity negative =>
    cases y with
    | undefined => exact hy.ne_undefined rfl
    | rational q => cases hsum
    | infinity negative' =>
      cases negative <;> cases negative'
      · cases hsum
      · exact hapart.not_above ⟨hx.above rfl, hy.below rfl⟩
      · exact hapart.not_below ⟨hx.below rfl, hy.above rfl⟩
      · cases hsum

theorem neg_sum (x y : Exact) : neg (x + y) = neg x + neg y := by
  cases x with
  | undefined => cases y <;> rfl
  | rational q =>
    cases y with
    | rational q' => exact congrArg Exact.rational (neg_add q q')
    | _ => rfl
  | infinity negative =>
    cases y with
    | infinity negative' => cases negative <;> cases negative' <;> rfl
    | _ => rfl

theorem Within.neg (h : Within low high x) : Within (-high) (-low) (neg x) := by
  cases h with
  | rational hlow hhigh => exact .rational (neg_le_neg hhigh) (neg_le_neg hlow)
  | above h => exact .below (neg_le_neg h)
  | below h => exact .above (le_neg.mpr h)

theorem Within.le_of_add (hx : Within low high x) (hy : Within low' high' y) (hhigh : 0 ≤ high)
    (hhigh' : 0 ≤ high') (hz : Nearest (x + y) (.infinity false)) : limit ≤ high + high' := by
  cases hx with
  | above h => exact h.trans (le_add_of_nonneg_right hhigh')
  | @rational q _ hq =>
    cases hy with
    | above h => exact h.trans (le_add_of_nonneg_left hhigh)
    | @rational q' _ hq' =>
      have hz : Nearest (.rational (q + q')) (.infinity false) := hz
      cases hz with
      | above h => exact h.trans (add_le_add hq hq')
    | below h => cases hz
  | below h =>
    cases hy with
    | above h => exact h.trans (le_add_of_nonneg_left hhigh)
    | rational _ _ => cases hz
    | below _ => cases hz

theorem Within.bounded_add (hx : Within low high x) (hy : Within low' high' y)
    (hlow : low ≤ 0) (hlow' : low' ≤ 0) (hhigh : 0 ≤ high) (hhigh' : 0 ≤ high')
    (hapart : Apart low high low' high') (hz : Nearest (x + y) z) :
    Bounded (low + low') (high + high') z := by
  refine ⟨hx.bounded.ne_undefined_of_add hy.bounded hapart hz, ?_, ?_⟩
  · rintro rfl
    exact hx.le_of_add hy hhigh hhigh' hz
  · rintro rfl
    have hneg := hz.neg
    rw [neg_sum] at hneg
    have hle := hx.neg.le_of_add hy.neg (neg_nonneg.mpr hlow) (neg_nonneg.mpr hlow') hneg
    linarith only [hle]

theorem representable_of_ofFloat {w : Float} (h : ofFloat w = .rational q) : Representable q := by
  have hcanonical := (isCanonical_unpack w.toModel.toBits.toBitVec).1
  rw [ofFloat] at h
  change IsCanonical w.toModel.unpack at hcanonical
  cases hu : w.toModel.unpack with
  | infinity s => rw [hu] at h; cases h
  | notANumber => rw [hu] at h; cases h
  | zero s =>
    rw [hu] at h
    cases h
    exact representable_zero
  | finite s m e hm =>
    rw [hu] at h hcanonical
    cases h
    exact representable_rational hcanonical

theorem ofFloat_count {n : ℤ} {k : ℕ} (hk : k ≤ 1023) (h0 : 0 ≤ n) (hn : n ≤ 2 ^ k) :
    ∃ v : ℚ, ofFloat (n : Float) = .rational v ∧ 0 ≤ v ∧ v ≤ 2 ^ k ∧
      (Representable n → v = n) := by
  have h0 : (0 : ℚ) ≤ n := by exact_mod_cast h0
  have hn : (n : ℚ) ≤ 2 ^ k := by exact_mod_cast hn
  have hlimit : (n : ℚ) < limit :=
    (hn.trans (pow_le_pow_right₀ one_le_two hk)).trans_lt lt_limit
  have hnear := nearest_intCast n
  generalize ofFloat (n : Float) = x at hnear
  cases hnear with
  | above h => exact absurd h (not_le.mpr hlimit)
  | below h => exact absurd h (not_le.mpr ((neg_lt_zero.mpr limit_pos).trans_le h0))
  | @rational _ v hrounding _ =>
    exact ⟨v, rfl, hrounding.ge_of_ge 0 representable_zero h0,
      hrounding.le_of_le _ (representable_two_pow k) hn, hrounding.eq_of_representable⟩

theorem mul_between {v top : ℚ} (h0 : 0 ≤ v) (hv : v ≤ top) (q : ℚ) :
    min (top * q) 0 ≤ v * q ∧ v * q ≤ max (top * q) 0 := by
  rcases le_total 0 q with h | h
  · exact ⟨(min_le_right _ _).trans (mul_nonneg h0 h),
      (mul_le_mul_of_nonneg_right hv h).trans (le_max_left _ _)⟩
  · exact ⟨(min_le_left _ _).trans (mul_le_mul_of_nonpos_right hv h),
      (mul_nonpos_of_nonneg_of_nonpos h0 h).trans (le_max_right _ _)⟩

section Products

variable {k : ℕ} {w : Float} (hk : k ≤ 1023) (hw : ofFloat w = .rational q)

include hk hw

theorem within_product {n : ℤ} (h0 : 0 ≤ n) (hn : n ≤ 2 ^ k) :
    Within (min (2 ^ k * q) 0) (max (2 ^ k * q) 0) (ofFloat ((n : Float) * w)) := by
  obtain ⟨v, hv, hv0, hvk, -⟩ := ofFloat_count hk h0 hn
  have hmul := nearest_float_mul (n : Float) w
  rw [hv, hw] at hmul
  have hq := (representable_of_ofFloat hw).two_pow_mul k
  have hmin : Representable (min (2 ^ k * q) 0) := by
    obtain h | h := min_choice (2 ^ k * q) 0 <;> rw [h]
    exacts [hq, representable_zero]
  have hmax : Representable (max (2 ^ k * q) 0) := by
    obtain h | h := max_choice (2 ^ k * q) 0 <;> rw [h]
    exacts [hq, representable_zero]
  obtain ⟨hlow, hhigh⟩ := mul_between hv0 hvk q
  exact Nearest.within hmul hmin hmax hlow hhigh

theorem top_product : ofFloat (((2 ^ k : ℤ) : Float) * w) = saturated (2 ^ k * q) := by
  obtain ⟨v, hv, -, -, hexact⟩ := ofFloat_count hk (n := 2 ^ k) (by positivity) le_rfl
  have hcount : ((2 ^ k : ℤ) : ℚ) = 2 ^ k := by push_cast; rfl
  rw [hcount] at hexact
  have hmul := nearest_float_mul ((2 ^ k : ℤ) : Float) w
  rw [hv, hw, hexact (representable_two_pow k)] at hmul
  exact Nearest.eq_saturated hmul ((representable_of_ofFloat hw).two_pow_mul k)

end Products

theorem saturated_zero : saturated 0 = .rational 0 := by
  rw [saturated, if_neg (not_le.mpr limit_pos), if_neg (not_le.mpr (neg_lt_zero.mpr limit_pos))]

theorem ofFloat_zero : ofFloat ((0 : ℤ) : Float) = .rational 0 := by
  have hzero : Nearest (.rational ((0 : ℤ) : ℚ)) (ofFloat ((0 : ℤ) : Float)) := nearest_intCast 0
  rw [Int.cast_zero] at hzero
  rw [hzero.eq_saturated representable_zero, saturated_zero]

theorem zero_product {w : Float} (hw : ofFloat w = .rational q) :
    ofFloat (((0 : ℤ) : Float) * w) = .rational 0 := by
  have hmul := nearest_float_mul ((0 : ℤ) : Float) w
  rw [hw, ofFloat_zero] at hmul
  have hmul : Nearest (.rational (0 * q)) _ := hmul
  rw [zero_mul] at hmul
  rw [hmul.eq_saturated representable_zero, saturated_zero]

/-- The counts that a bound allows reach both ends of what a part is worth. -/
theorem exists_count {k : ℕ} {w : Float} (hk : k ≤ 1023) (hw : ofFloat w = .rational q) {r : ℚ}
    (hr : r = 2 ^ k * q ∨ r = 0) :
    ∃ n : ℕ, n ≤ 2 ^ k ∧ ofFloat (((n : ℤ) : Float) * w) = saturated r := by
  obtain rfl | rfl := hr
  · refine ⟨2 ^ k, le_rfl, ?_⟩
    rw [Nat.cast_pow, Nat.cast_ofNat]
    exact top_product hk hw
  · refine ⟨0, Nat.zero_le _, ?_⟩
    rw [saturated_zero]
    exact zero_product hw

theorem Nearest.eq_of_undefined (h : Nearest .undefined y) : y = .undefined := by
  cases h
  rfl

theorem zero_product_of_not_isFinite {w : Float} (hw : w.isFinite = false) :
    ofFloat (((0 : ℤ) : Float) * w) = .undefined := by
  have hmul := nearest_float_mul ((0 : ℤ) : Float) w
  rw [ofFloat_zero] at hmul
  cases hx : ofFloat w with
  | rational q =>
    rw [(isFinite_iff w).mpr ⟨q, hx⟩] at hw
    cases hw
  | _ =>
    rw [hx] at hmul
    exact hmul.eq_of_undefined

theorem Nearest.add_undefined (h : Nearest (x + .undefined) y) : y = .undefined := by
  cases x <;> exact h.eq_of_undefined

theorem Nearest.undefined_add (h : Nearest (.undefined + x) y) : y = .undefined := by
  cases x <;> exact h.eq_of_undefined

theorem Nearest.opposite {b : Bool} (h : Nearest (.infinity b + .infinity (!b)) y) :
    y = .undefined := by
  cases b <;> exact h.eq_of_undefined

theorem saturated_of_ge (h : limit ≤ q) : saturated q = .infinity false := if_pos h

theorem saturated_of_le (h : q ≤ -limit) : saturated q = .infinity true := by
  have hnegative : ¬limit ≤ q := not_le.mpr (h.trans_lt (by linarith only [limit_pos]))
  rw [saturated, if_neg hnegative, if_pos h]

theorem saturated_of_nonneg (h : 0 ≤ q) :
    saturated q = .infinity false ∨ saturated q = .rational q := by
  rw [saturated]
  split
  · exact .inl rfl
  · rw [if_neg (not_le.mpr ((neg_lt_zero.mpr limit_pos).trans_le h))]
    exact .inr rfl

theorem Nearest.eq_of_infinity {negative : Bool} (h : Nearest (.infinity negative) y) :
    y = .infinity negative := by
  cases h
  rfl

/-- A sum that is too great is an infinity, also when its parts are. -/
theorem Nearest.above_of_add {p : ℚ} (hq : 0 ≤ q) (hp : 0 ≤ p) (hlimit : limit ≤ q + p)
    (h : Nearest (saturated q + saturated p) y) : y = .infinity false := by
  obtain hsq | hsq := saturated_of_nonneg hq <;> obtain hsp | hsp := saturated_of_nonneg hp <;>
    rw [hsq, hsp] at h
  · exact h.eq_of_infinity
  · exact h.eq_of_infinity
  · exact h.eq_of_infinity
  · have h : Nearest (.rational (q + p)) y := h
    cases h with
    | rational _ hless => exact absurd hlimit (not_le.mpr (abs_lt.mp hless).2)
    | above _ => rfl
    | below hbelow => exact absurd hlimit (not_le.mpr (hbelow.trans_lt (by linarith only [limit_pos])))

theorem neg_saturated (q : ℚ) : neg (saturated q) = saturated (-q) := by
  rcases le_or_gt limit q with h | h
  · rw [saturated_of_ge h, saturated_of_le (neg_le_neg h)]
    rfl
  · rcases le_or_gt q (-limit) with h' | h'
    · rw [saturated_of_le h', saturated_of_ge (le_neg.mpr h')]
      rfl
    · rw [saturated, saturated, if_neg (not_le.mpr h), if_neg (not_le.mpr h'),
        if_neg (not_le.mpr (neg_lt.mp h')), if_neg (not_le.mpr (neg_lt_neg h))]
      rfl

theorem Nearest.below_of_add {p : ℚ} (hq : q ≤ 0) (hp : p ≤ 0) (hlimit : q + p ≤ -limit)
    (h : Nearest (saturated q + saturated p) y) : y = .infinity true := by
  have hneg := h.neg
  rw [neg_sum, neg_saturated, neg_saturated] at hneg
  have habove := hneg.above_of_add (neg_nonneg.mpr hq) (neg_nonneg.mpr hp) (by linarith only [hlimit])
  cases y with
  | infinity negative => cases negative <;> first | rfl | cases habove
  | _ => cases habove

def rationalOf (x : Float) : ℚ := Decimal.rational x.toModel.unpack

theorem ofFloat_of_isFinite {x : Float} (h : x.isFinite = true) :
    ofFloat x = .rational (rationalOf x) := by
  obtain ⟨q, hq⟩ := (isFinite_iff x).mp h
  rw [ofFloat] at hq ⊢
  rw [rationalOf]
  cases hu : x.toModel.unpack <;> rw [hu] at hq <;> first | rfl | cases hq

end Exact

open Exact

variable (config : Config Float)

structure Config.HasFiniteWeights : Prop where
  usage : config.usage.isFinite = true
  symbol : config.symbol.isFinite = true
  complexity : config.complexity.isFinite = true

/-- With counts up to `top`, the call sites and the symbols can be worth opposite infinities, or
they together and the complexity. -/
def Config.Clashes (top : ℚ) : Prop :=
  let u := top * rationalOf config.usage
  let s := top * rationalOf config.symbol
  let c := top * rationalOf config.complexity
  (limit ≤ u ∧ s ≤ -limit) ∨ (u ≤ -limit ∧ limit ≤ s) ∨
    (limit ≤ max u 0 + max s 0 ∧ c ≤ -limit) ∨ (min u 0 + min s 0 ≤ -limit ∧ limit ≤ c)

structure Counts.UpTo (c : Counts) (top : ℕ) : Prop where
  usages : c.usages ≤ top
  symbols : c.symbols ≤ top
  complexity_nonneg : 0 ≤ c.complexity
  complexity : c.complexity ≤ top

theorem Counts.nearest_value (c : Counts) : ∃ x,
    Nearest (ofFloat (((c.usages : ℤ) : Float) * config.usage) +
      ofFloat (((c.symbols : ℤ) : Float) * config.symbol)) x ∧
    Nearest (x + ofFloat ((c.complexity : Float) * config.complexity)) (ofFloat (c.value config)) :=
  ⟨_, nearest_float_add _ _, nearest_float_add _ _⟩

variable {config}

theorem isNaN_of_eq_undefined {x : Float} (h : ofFloat x = .undefined) : x.isNaN = true :=
  (isNaN_iff x).mpr h

/-- Without evidence, a weight that is not finite leaves no number. -/
theorem hasFiniteWeights_of_value (h : (Counts.value ⟨0, 0, 0⟩ config).isNaN = false) :
    config.HasFiniteWeights := by
  obtain ⟨x, hx, hvalue⟩ := Counts.nearest_value config ⟨0, 0, 0⟩
  have hnumber : ofFloat (Counts.value ⟨0, 0, 0⟩ config) ≠ .undefined := fun heq ↦ by
    rw [isNaN_of_eq_undefined heq] at h
    cases h
  have hfinite : ∀ {w : Float}, w.isFinite ≠ true → w.isFinite = false := Bool.eq_false_of_not_eq_true
  simp only [Nat.cast_zero] at hx hvalue
  refine ⟨by_contra fun hw ↦ hnumber ?_, by_contra fun hw ↦ hnumber ?_, by_contra fun hw ↦ hnumber ?_⟩
  · rw [zero_product_of_not_isFinite (hfinite hw)] at hx
    rw [hx.undefined_add] at hvalue
    exact hvalue.undefined_add
  · rw [zero_product_of_not_isFinite (hfinite hw)] at hx
    rw [hx.add_undefined] at hvalue
    exact hvalue.undefined_add
  · rw [zero_product_of_not_isFinite (hfinite hw)] at hvalue
    exact hvalue.add_undefined

theorem Counts.undefined_of_calls {c : Counts} {b : Bool}
    (hu : ofFloat (((c.usages : ℤ) : Float) * config.usage) = .infinity b)
    (hs : ofFloat (((c.symbols : ℤ) : Float) * config.symbol) = .infinity (!b)) :
    ofFloat (c.value config) = .undefined := by
  obtain ⟨x, hx, hvalue⟩ := c.nearest_value config
  rw [hu, hs] at hx
  rw [hx.opposite] at hvalue
  exact hvalue.undefined_add

theorem Counts.undefined_of_sum {c : Counts} {b : Bool}
    (hsum : ∀ x, Nearest (ofFloat (((c.usages : ℤ) : Float) * config.usage) +
      ofFloat (((c.symbols : ℤ) : Float) * config.symbol)) x → x = .infinity b)
    (hc : ofFloat ((c.complexity : Float) * config.complexity) = .infinity (!b)) :
    ofFloat (c.value config) = .undefined := by
  obtain ⟨x, hx, hvalue⟩ := c.nearest_value config
  rw [hsum x hx, hc] at hvalue
  exact hvalue.opposite

theorem not_clashes_of_value {k : ℕ} (hk : k ≤ 1023) (hfinite : config.HasFiniteWeights)
    (h : ∀ c : Counts, c.UpTo (2 ^ k) → (c.value config).isNaN = false) :
    ¬config.Clashes (2 ^ k) := by
  have hnumber : ∀ c : Counts, c.UpTo (2 ^ k) → ofFloat (c.value config) ≠ .undefined := by
    intro c hc heq
    have hc := h c hc
    rw [isNaN_of_eq_undefined heq] at hc
    cases hc
  have husage := ofFloat_of_isFinite hfinite.usage
  have hsymbol := ofFloat_of_isFinite hfinite.symbol
  have hcomplexity := top_product hk (ofFloat_of_isFinite hfinite.complexity)
  have hcounts : ∀ {u s : ℕ}, u ≤ 2 ^ k → s ≤ 2 ^ k → Counts.UpTo ⟨u, s, 2 ^ k⟩ (2 ^ k) :=
    fun hu hs ↦ ⟨hu, hs, by positivity, by push_cast; exact le_rfl⟩
  -- Where two parts clash, their counts are the highest. Where a sum clashes with the complexity, a
  -- weight of the other sign has no count at all.
  rintro (⟨hcall, hname⟩ | ⟨hcall, hname⟩ | ⟨hsum, hc⟩ | ⟨hsum, hc⟩)
  · obtain ⟨u, hu, husage⟩ := exists_count hk husage (.inl rfl)
    obtain ⟨s, hs, hsymbol⟩ := exists_count hk hsymbol (.inl rfl)
    exact hnumber _ (hcounts hu hs) (Counts.undefined_of_calls
      (husage.trans (saturated_of_ge hcall)) (hsymbol.trans (saturated_of_le hname)))
  · obtain ⟨u, hu, husage⟩ := exists_count hk husage (.inl rfl)
    obtain ⟨s, hs, hsymbol⟩ := exists_count hk hsymbol (.inl rfl)
    exact hnumber _ (hcounts hu hs) (Counts.undefined_of_calls
      (husage.trans (saturated_of_le hcall)) (hsymbol.trans (saturated_of_ge hname)))
  · obtain ⟨u, hu, husage⟩ := exists_count hk husage (max_choice _ 0)
    obtain ⟨s, hs, hsymbol⟩ := exists_count hk hsymbol (max_choice _ 0)
    refine hnumber _ (hcounts hu hs) (Counts.undefined_of_sum (b := false) (fun x hx ↦ ?_)
      (hcomplexity.trans (saturated_of_le hc)))
    rw [husage, hsymbol] at hx
    exact hx.above_of_add (le_max_right _ _) (le_max_right _ _) hsum
  · obtain ⟨u, hu, husage⟩ := exists_count hk husage (min_choice _ 0)
    obtain ⟨s, hs, hsymbol⟩ := exists_count hk hsymbol (min_choice _ 0)
    refine hnumber _ (hcounts hu hs) (Counts.undefined_of_sum (b := true) (fun x hx ↦ ?_)
      (hcomplexity.trans (saturated_of_ge hc)))
    rw [husage, hsymbol] at hx
    exact hx.below_of_add (min_le_right _ _) (min_le_right _ _) hsum

theorem isNaN_value_of_not_clashes {k : ℕ} (hk : k ≤ 1023) (hfinite : config.HasFiniteWeights)
    (hclash : ¬config.Clashes (2 ^ k)) {c : Counts} (hc : c.UpTo (2 ^ k)) :
    (c.value config).isNaN = false := by
  obtain ⟨x, hx, hvalue⟩ := c.nearest_value config
  have husages := within_product hk (ofFloat_of_isFinite hfinite.usage) (n := c.usages)
    (Int.natCast_nonneg _) (by exact_mod_cast hc.usages)
  have hsymbols := within_product hk (ofFloat_of_isFinite hfinite.symbol) (n := c.symbols)
    (Int.natCast_nonneg _) (by exact_mod_cast hc.symbols)
  have hcomplexity := within_product hk (ofFloat_of_isFinite hfinite.complexity)
    hc.complexity_nonneg (by exact_mod_cast hc.complexity)
  rw [Config.Clashes] at hclash
  push Not at hclash
  obtain ⟨hpositive, hnegative, habove, hbelow⟩ := hclash
  have hmax : ∀ q : ℚ, limit ≤ max q 0 → limit ≤ q := fun q h ↦
    (le_max_iff.mp h).resolve_right (not_le.mpr limit_pos)
  have hmin : ∀ q : ℚ, min q 0 ≤ -limit → q ≤ -limit := fun q h ↦
    (min_le_iff.mp h).resolve_right (not_le.mpr (neg_lt_zero.mpr limit_pos))
  -- Rounding may carry the sum beyond the sum of the bounds, but to no infinity they do not allow.
  have hsum := husages.bounded_add hsymbols (min_le_right _ _) (min_le_right _ _)
    (le_max_right _ _) (le_max_right _ _)
    ⟨fun h ↦ absurd (hmin _ h.2) (not_le.mpr (hpositive (hmax _ h.1))),
      fun h ↦ absurd (hmax _ h.2) (not_le.mpr (hnegative (hmin _ h.1)))⟩ hx
  have hnumber := hsum.ne_undefined_of_add hcomplexity.bounded
    ⟨fun h ↦ absurd (hmin _ h.2) (not_le.mpr (habove h.1)),
      fun h ↦ absurd (hmax _ h.2) (not_le.mpr (hbelow h.1))⟩ hvalue
  rw [Bool.eq_false_iff]
  exact fun hnan ↦ hnumber ((isNaN_iff _).mp hnan)

theorem value_zero_iff : (Counts.value ⟨0, 0, 0⟩ config == 0) = true ↔ config.HasFiniteWeights := by
  rw [beq_zero_iff]
  constructor
  · intro h
    refine hasFiniteWeights_of_value ?_
    rw [Bool.eq_false_iff]
    intro hnan
    rw [(isNaN_iff _).mp hnan] at h
    cases h
  · intro hfinite
    obtain ⟨x, hx, hvalue⟩ := Counts.nearest_value config ⟨0, 0, 0⟩
    simp only [Nat.cast_zero] at hx hvalue
    rw [zero_product (ofFloat_of_isFinite hfinite.usage),
      zero_product (ofFloat_of_isFinite hfinite.symbol)] at hx
    have hsum : ∀ {y}, Nearest (.rational 0 + .rational 0) y → y = .rational 0 := by
      intro y hy
      have hy : Nearest (.rational (0 + 0)) y := hy
      rw [zero_add] at hy
      rw [hy.eq_saturated representable_zero, saturated_zero]
    rw [hsum hx, zero_product (ofFloat_of_isFinite hfinite.complexity)] at hvalue
    exact hsum hvalue

end PackageAudit.Risk
