import PackageAudit.Proofs.Project.Settings
import PackageAudit.Proofs.Risk.Overflow

namespace PackageAudit.Project.Settings

open Json (Value)

def IsOverlarge (v : Value) : Prop := ∃ n : Int, v = .integer n ∧ Decimal.limit ≤ |(n : ℚ)|

theorem isInf_intCast_iff (n : Int) : (n : Float).isInf = true ↔ Decimal.limit ≤ |(n : ℚ)| := by
  have hnear := Risk.Exact.nearest_intCast n
  rw [Risk.Exact.isInf_iff, le_abs]
  generalize Risk.Exact.ofFloat (n : Float) = x at hnear
  cases hnear with
  | rational _ hlimit =>
    rw [abs_lt] at hlimit
    refine iff_of_false nofun ?_
    rintro (h | h)
    · exact absurd h (not_le.mpr hlimit.2)
    · exact absurd (le_neg.mp h) (not_le.mpr hlimit.1)
  | above h => exact iff_of_true ⟨_, rfl⟩ (.inl h)
  | below h => exact iff_of_true ⟨_, rfl⟩ (.inr (le_neg.mpr h))

structure Field where
  place : Value
  key : String
  absent : Float

def Field.read (f : Field) : Except Error Float := numberAt f.place f.key f.absent

def riskFields (weights thresholds : Value) : List Field :=
  let d := Risk.Config.default
  [⟨weights, "usage", d.usage⟩, ⟨weights, "symbol", d.symbol⟩,
    ⟨weights, "complexity", d.complexity⟩, ⟨thresholds, "low", d.low⟩,
    ⟨thresholds, "medium", d.medium⟩]

/-- A field of an object that is not beyond the doubles. -/
structure Field.IsTame (f : Field) : Prop where
  isObject : ∃ ms, f.place = .object ms
  not_isOverlarge : ∀ v, f.place.member? f.key = some v → ¬IsOverlarge v

theorem isBroken_of_number {v : Value} {e : Error} (h : number v = .error e) :
    e.isBroken = true ↔ IsOverlarge v := by
  cases v with
  | integer n =>
    have hnumber : number (.integer n) =
        if (n : Float).isInf then .error (.broken .tooLarge) else .ok (n : Float) := rfl
    rw [hnumber] at h
    split at h
    · rename_i hinf
      cases h
      exact iff_of_true rfl ⟨n, rfl, (isInf_intCast_iff n).mp hinf⟩
    · cases h
  | string t =>
    rw [number] at h
    cases hread : Decimal.readPlain? (trimNumber t) <;> rw [hread] at h <;> cases h
    exact iff_of_false nofun nofun
  | float _ | bool _ => cases h
  | null | array _ | object _ =>
    cases h
    exact iff_of_false nofun nofun

theorem Field.isTame_iff {f : Field} {e : Error} (h : f.read = .error e) :
    e.isBroken = false ↔ f.IsTame := by
  obtain ⟨place, key, absent⟩ := f
  cases place with
  | object ms =>
    have hread : number ((Keyed.get? ms (Text.ofString key)).getD (.float absent)) = .error e := h
    rw [← Bool.not_eq_true, isBroken_of_number hread]
    constructor
    · refine fun hsmall ↦ ⟨⟨ms, rfl⟩, fun v (hv : Keyed.get? ms (Text.ofString key) = some v) ↦ ?_⟩
      rw [hv] at hsmall
      exact hsmall
    · rintro ⟨-, hsmall⟩
      cases hv : Keyed.get? ms (Text.ofString key) with
      | none => exact nofun
      | some v => exact hsmall v hv
  | _ =>
    cases Except.error.inj h
    exact iff_of_false nofun fun ⟨⟨_, h⟩, _⟩ ↦ nomatch h

/-- Where a field gives no double, the first such field is tame. -/
def StopsTamely (fields : List Field) : Prop :=
  ∀ f, fields.find? (fun f ↦ !f.read.isOk) = some f → f.IsTame

variable {β : Type} {P : β → Prop}

theorem answers_read_bind {f : Field} {g : Float → Except Error β} {fields : List Field}
    (hg : ∀ x, Answers P (g x) ↔ StopsTamely fields) :
    Answers P (f.read >>= g) ↔ StopsTamely (f :: fields) := by
  cases hf : f.read with
  | ok x =>
    have hfind : StopsTamely (f :: fields) ↔ StopsTamely fields := by
      have hok : (!f.read.isOk) = false := by rw [hf]; rfl
      rw [StopsTamely, List.find?_cons_of_neg (by rw [hok]; exact Bool.false_ne_true)]
      rfl
    rw [hfind]
    exact hg x
  | error e =>
    have hfind : (f :: fields).find? (fun f ↦ !f.read.isOk) = some f :=
      List.find?_cons_of_pos (by rw [hf]; rfl)
    have hanswer : Answers P (Except.error e >>= g) ↔ e.isBroken = false := Iff.rfl
    rw [hanswer, Field.isTame_iff hf, StopsTamely, hfind]
    exact ⟨fun h _ heq ↦ Option.some.inj heq ▸ h, fun h ↦ h f rfl⟩

def ratingFrom (weights thresholds : Value) : Except Error (Risk.Config Float) := do
  let d := Risk.Config.default
  let usage ← Field.read ⟨weights, "usage", d.usage⟩
  let symbol ← Field.read ⟨weights, "symbol", d.symbol⟩
  let complexity ← Field.read ⟨weights, "complexity", d.complexity⟩
  let low ← Field.read ⟨thresholds, "low", d.low⟩
  let medium ← Field.read ⟨thresholds, "medium", d.medium⟩
  if medium < low then throw .thresholds
  return ⟨usage, symbol, complexity, low, medium⟩

def innerSection (ms : Keyed Value) (key : String) : Value :=
  (Keyed.get? ms (Text.ofString key)).getD (.object [])

theorem risk_eq (settings : Value) : (∃ ms, sectionAt? settings "risk" = some ms ∧
      risk settings = ratingFrom (innerSection ms "weights") (innerSection ms "thresholds")) ∨
    sectionAt? settings "risk" = none ∧ ∃ b, risk settings = .error (.broken b) := by
  refine get_section_bind settings "risk" fun v hv ↦ ?_
  cases v with
  | object ms => exact absurd rfl (hv ms)
  | _ => exact ⟨_, rfl⟩

variable {P : Risk.Config Float → Prop}

theorem answers_ratingFrom (hordered : ∀ config, ¬config.medium < config.low → P config)
    (weights thresholds : Value) :
    Answers P (ratingFrom weights thresholds) ↔ StopsTamely (riskFields weights thresholds) := by
  -- Each step takes one field off the list, in the order in which they are read.
  refine answers_read_bind fun usage ↦ answers_read_bind fun symbol ↦
    answers_read_bind fun complexity ↦ answers_read_bind fun low ↦
    answers_read_bind fun medium ↦ ?_
  refine iff_of_true ?_ fun _ h ↦ nomatch h
  split
  · rfl
  · rename_i hle
    exact hordered _ hle

/-- Where the sections with the numbers are found, and a number that cannot be read is tame. -/
def HasTameNumbers (settings : Value) : Prop :=
  ∃ ms, sectionAt? settings "risk" = some ms ∧
    StopsTamely (riskFields (innerSection ms "weights") (innerSection ms "thresholds"))

theorem answers_risk (hordered : ∀ config, ¬config.medium < config.low → P config)
    (settings : Value) : Answers P (risk settings) ↔ HasTameNumbers settings := by
  unfold HasTameNumbers
  obtain ⟨ms, hsection, hrisk⟩ | ⟨hsection, b, hrisk⟩ := risk_eq settings
  · rw [hrisk, answers_ratingFrom hordered, hsection]
    simp
  · rw [hrisk, hsection]
    exact iff_of_false nofun nofun

theorem not_medium_lt_low {settings : Value} {config : Risk.Config Float}
    (h : risk settings = .ok config) : ¬config.medium < config.low := by
  -- Settings that give a rating are answered, and every proper answer has passed the check.
  have htame := (answers_risk (fun _ _ ↦ trivial) settings).mp (by rw [h]; trivial)
  have hordered := (answers_risk (fun _ h ↦ h) settings).mpr htame
  rwa [h] at hordered

/-- Which settings are answered properly: the patterns of texts, the whole numbers that are not too
small, and ordered thresholds, or else a message. -/
theorem answers_properly_iff (settings : Value) :
    (Answers IsTexts (includes settings) ↔ HasPatterns settings "include") ∧
    (Answers IsTexts (excludes settings) ↔ HasPatterns settings "exclude") ∧
    (Answers (fun r ↦ wholeNumber? r.1 = some r.2 ∧ 1 ≤ r.2) (workers settings) ↔
      (sectionAt? settings "analysis").isSome = true) ∧
    (Answers (fun r ↦ wholeNumber? r.1 = some r.2 ∧ 0 ≤ r.2) (exampleCap settings) ↔
      (sectionAt? settings "analysis").isSome = true) ∧
    (Answers (fun config ↦ ¬config.medium < config.low) (risk settings) ↔
      HasTameNumbers settings) :=
  ⟨answers_texts, answers_texts, answers_counted fun _ ↦ rfl, answers_counted fun _ ↦ rfl,
    answers_risk (fun _ h ↦ h) settings⟩

/-- A weight that no double can hold is answered by no message. -/
theorem not_answers_overlarge :
    let settings : Value := .members [("risk", .members
      [("weights", .members [("usage", .integer (10 ^ 400))])])]
    ¬Answers (fun _ ↦ True) (risk settings) := by
  decide +kernel

/-- What rates risks has ordered thresholds just if both are numbers. Whichever counts there are up
to a power of two, they have a value that is a number just if no weights can make up infinities that
cancel out; and what has no evidence is then worth nothing. -/
theorem risk_usable_iff {settings : Value} {config : Risk.Config Float}
    (h : risk settings = .ok config) :
    (config.low ≤ config.medium ↔ config.low.isNaN = false ∧ config.medium.isNaN = false) ∧
    (∀ k ≤ 1023, (∀ c : Risk.Counts, c.UpTo (2 ^ k) → (c.value config).isNaN = false) ↔
      config.HasFiniteWeights ∧ ¬config.Clashes (2 ^ k)) ∧
    ((Risk.Counts.value ⟨0, 0, 0⟩ config == 0) = true ↔ config.HasFiniteWeights) := by
  refine ⟨?_, fun k hk ↦ ⟨fun hnumber ↦ ?_, fun ⟨hfinite, hclash⟩ _ hc ↦ ?_⟩, Risk.value_zero_iff⟩
  · rw [Risk.Exact.le_iff]
    exact and_iff_left (not_medium_lt_low h)
  · have hfinite : config.HasFiniteWeights :=
      Risk.hasFiniteWeights_of_value (hnumber ⟨0, 0, 0⟩ ⟨by simp, by simp, le_rfl, by positivity⟩)
    exact ⟨hfinite, Risk.not_clashes_of_value hk hfinite hnumber⟩
  · exact Risk.isNaN_value_of_not_clashes hk hfinite hclash hc

theorem risk_usable_default : Risk.Config.default.low ≤ Risk.Config.default.medium ∧
    ∀ c : Risk.Counts, c.UpTo (2 ^ 1000) → (c.value Risk.Config.default).isNaN = false := by
  obtain ⟨hordered, hvalue, -⟩ :=
    risk_usable_iff (show risk default = .ok Risk.Config.default from rfl)
  refine ⟨hordered.mpr (by decide +kernel), (hvalue 1000 (by decide)).mpr ⟨?_, ?_⟩⟩
  · exact ⟨by decide +kernel, by decide +kernel, by decide +kernel⟩
  · unfold Risk.Config.Clashes
    decide +kernel

/-- The comparison lets a threshold through that is no number, and nothing keeps out an infinite
weight, with which no call sites are worth no number. -/
theorem risk_not_usable :
    (∃ config, risk (.members [("risk", .members
        [("thresholds", .members [("low", .float (0 / 0))])])]) = .ok config ∧
      ¬config.low ≤ config.medium) ∧
    ∃ config, risk (.members [("risk", .members
        [("weights", .members [("usage", .float (1 / 0))])])]) = .ok config ∧
      (Risk.Counts.value ⟨0, 0, 0⟩ config).isNaN = true :=
  ⟨⟨⟨1, 2, 0.5, 0 / 0, 15⟩, rfl, by decide +kernel⟩,
    ⟨⟨1 / 0, 2, 0.5, 5, 15⟩, rfl, by decide +kernel⟩⟩

end PackageAudit.Project.Settings
