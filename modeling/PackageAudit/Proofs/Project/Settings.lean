import PackageAudit.Project.Settings

namespace PackageAudit.Project.Settings

open Json (Value)

def Error.isBroken : Error → Bool
  | broken _ => true
  | _ => false

variable {α : Type}

/-- The answer is a value with the property, or an error that has a message. -/
def Answers (P : α → Prop) : Except Error α → Prop
  | .ok a => P a
  | .error e => e.isBroken = false

instance (P : α → Prop) [DecidablePred P] : DecidablePred (Answers P)
  | .ok a => inferInstanceAs (Decidable (P a))
  | .error e => inferInstanceAs (Decidable (e.isBroken = false))

def sectionAt? (v : Value) (key : String) : Option (Keyed Value) :=
  match v.get key (.object []) with
  | .ok (.object ms) => some ms
  | _ => none

theorem get_section_bind (settings : Value) (key : String) {f : Value → Except Error α}
    (hf : ∀ v, (∀ ms, v ≠ .object ms) → ∃ b, f v = .error (.broken b)) :
    (∃ ms, sectionAt? settings key = some ms ∧
      (get settings key (.object []) >>= f) = f (.object ms)) ∨
    sectionAt? settings key = none ∧
      ∃ b, (get settings key (.object []) >>= f) = .error (.broken b) := by
  unfold sectionAt? get
  cases settings.get key (.object []) with
  | error b => exact .inr ⟨rfl, b, rfl⟩
  | ok v =>
    cases v with
    | object ms => exact .inl ⟨ms, rfl, rfl⟩
    | _ => exact .inr ⟨rfl, hf _ nofun⟩

theorem analysis_eq (settings : Value) (key : String) (absent : Value) :
    (∃ ms, sectionAt? settings "analysis" = some ms ∧
      analysis settings key absent = .ok ((Keyed.get? ms (Text.ofString key)).getD absent)) ∨
    sectionAt? settings "analysis" = none ∧
      ∃ b, analysis settings key absent = .error (.broken b) := by
  refine get_section_bind settings "analysis" fun v hv ↦ ?_
  cases v with
  | object ms => exact absurd rfl (hv ms)
  | _ => exact ⟨_, rfl⟩

theorem isBroken_of_analysis {settings : Value} {key : String} {absent : Value} {e : Error}
    (h : analysis settings key absent = .error e) : e.isBroken = true := by
  obtain ⟨_, _, heq⟩ | ⟨_, _, heq⟩ := analysis_eq settings key absent <;> rw [heq] at h <;> cases h
  rfl

theorem answers_analysis {settings : Value} {key : String} {absent : Value} {P : α → Prop}
    {f : Value → Except Error α} : Answers P (analysis settings key absent >>= f) ↔
      ∃ ms, sectionAt? settings "analysis" = some ms ∧
        Answers P (f ((Keyed.get? ms (Text.ofString key)).getD absent)) := by
  obtain ⟨ms, hms, heq⟩ | ⟨hnone, b, heq⟩ := analysis_eq settings key absent
  · rw [heq, hms]
    exact ⟨fun h ↦ ⟨ms, rfl, h⟩, fun ⟨_, hsome, h⟩ ↦ Option.some.inj hsome ▸ h⟩
  · rw [heq, hnone]
    exact iff_of_false nofun nofun

/-- The errors of whole numbers name what they found, so that only the section can be amiss. -/
theorem answers_counted {settings : Value} {key : String} {absent least : Int}
    {error : Value → Error} (herror : ∀ v, (error v).isBroken = false) :
    Answers (fun r ↦ wholeNumber? r.1 = some r.2 ∧ least ≤ r.2)
      (counted settings key absent least error) ↔ (sectionAt? settings "analysis").isSome = true := by
  unfold counted
  rw [answers_analysis, Option.isSome_iff_exists]
  refine exists_congr fun ms ↦ and_iff_left ?_
  generalize (Keyed.get? ms (Text.ofString key)).getD (.integer absent) = v
  cases hv : wholeNumber? v with
  | none => exact herror v
  | some n =>
    dsimp only
    split
    · exact herror v
    · rename_i hle
      exact ⟨hv, Int.not_lt.mp hle⟩

def IsTexts (v : Value) : Prop := ∃ ts, v = .texts ts

/-- The patterns under a key of the section on the analysis, if any, are texts. -/
def HasPatterns (settings : Value) (key : String) : Prop :=
  ∃ ms, sectionAt? settings "analysis" = some ms ∧
    ∀ v, Keyed.get? ms (Text.ofString key) = some v → IsTexts v

theorem answers_texts {settings : Value} {key : String} {ts : List Text} :
    Answers IsTexts (analysis settings key (.texts ts)) ↔ HasPatterns settings key := by
  have hbind : analysis settings key (.texts ts) = analysis settings key (.texts ts) >>= pure :=
    (bind_pure _).symm
  rw [hbind, answers_analysis]
  refine exists_congr fun ms ↦ and_congr_right fun _ ↦ ?_
  cases Keyed.get? ms (Text.ofString key) with
  | none => exact iff_of_true ⟨ts, rfl⟩ nofun
  | some v => exact ⟨fun h _ heq ↦ Option.some.inj heq ▸ h, fun h ↦ h v rfl⟩

end PackageAudit.Project.Settings
