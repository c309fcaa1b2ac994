import PackageAudit.Ignore.Rule
import PackageAudit.Proofs.Text.Phrase

namespace PackageAudit.Ignore

def Piece.Takes : Piece → Text → Prop
  | .exactly a, t => t = [a]
  | .set s, t => ∃ c, t = [c] ∧ s.contains c = true
  | .one, t => ∃ c, t = [c] ∧ isSegmental c = true
  | .run least, t => (∀ c ∈ t, isSegmental c = true) ∧ least ≤ t.length
  | _, _ => False

def Piece.isInner : Piece → Bool
  | .exactly _ | .set _ | .one | .run _ => true
  | _ => false

/-- The pieces of a segment take a text to its end. -/
inductive Takes : List Piece → Text → Prop
  | nil : Takes [] []
  | cons {p : Piece} {ps : List Piece} {u v : Text} : p.Takes u → Takes ps v →
      Takes (p :: ps) (u ++ v)

section Fit

variable {p : Piece} {segment ps : List Piece} {t : Text}

theorem isSome_fit_single_iff {accepts : CodePoint → Bool}
    (hnil : fit (p :: ps) [] = none)
    (hcons : ∀ c r, fit (p :: ps) (c :: r) = if accepts c then fit ps r else none) :
    (fit (p :: ps) t).isSome ↔ ∃ u v, t = u ++ v ∧ (∃ c, u = [c] ∧ accepts c = true) ∧
      (fit ps v).isSome := by
  constructor
  · intro h
    cases t with
    | nil =>
      rw [hnil] at h
      cases h
    | cons c r =>
      rw [hcons] at h
      split at h
      · exact ⟨[c], r, rfl, ⟨c, rfl, ‹_›⟩, h⟩
      · cases h
  · rintro ⟨-, v, rfl, ⟨c, rfl, hc⟩, hv⟩
    rw [List.singleton_append, hcons, if_pos hc]
    exact hv

theorem isSome_fit_cons_iff (hp : p.isInner = true) :
    (fit (p :: ps) t).isSome ↔ ∃ u v, t = u ++ v ∧ p.Takes u ∧ (fit ps v).isSome := by
  cases p with
  | exactly a =>
    have htakes : ∀ u, (∃ c, u = [c] ∧ decide (a = c) = true) ↔ Piece.Takes (.exactly a) u := by
      intro u
      constructor
      · rintro ⟨c, rfl, hc⟩
        rw [of_decide_eq_true hc]
        rfl
      · exact fun hu ↦ ⟨a, hu, decide_eq_true rfl⟩
    simp only [← htakes]
    exact isSome_fit_single_iff (by simp only [fit]) (fun c r ↦ by simp only [fit, decide_eq_true_eq])
  | set s => exact isSome_fit_single_iff (by simp only [fit]) (fun c r ↦ by simp only [fit])
  | one => exact isSome_fit_single_iff (by simp only [fit]) (fun c r ↦ by simp only [fit])
  | run least =>
    rw [fit, Text.isSome_longRun_iff]
    simp only [Piece.Takes, and_assoc]
  | _ => cases hp

theorem isSome_fit_append_iff (h : ∀ p ∈ segment, p.isInner = true) :
    (fit (segment ++ ps) t).isSome ↔ ∃ u v, t = u ++ v ∧ Takes segment u ∧ (fit ps v).isSome := by
  induction segment generalizing t with
  | nil =>
    constructor
    · exact fun ht ↦ ⟨[], t, rfl, .nil, ht⟩
    · rintro ⟨u, v, rfl, hu, hv⟩
      cases hu
      exact hv
  | cons p segment ih =>
    obtain ⟨hp, hsegment⟩ := List.forall_mem_cons.mp h
    rw [List.cons_append, isSome_fit_cons_iff hp]
    constructor
    · rintro ⟨u, r, rfl, hu, hr⟩
      obtain ⟨u', v, rfl, hu', hv⟩ := (ih hsegment).mp hr
      exact ⟨u ++ u', v, (List.append_assoc u u' v).symm, .cons hu hu', hv⟩
    · rintro ⟨w, v, rfl, hw, hv⟩
      cases hw with
      | @cons _ _ u u' hu hu' =>
        exact ⟨u, u' ++ v, List.append_assoc u u' v, hu, (ih hsegment).mpr ⟨u', v, rfl, hu', hv⟩⟩

def behindSlash (ps : List Piece) : Text → Option Bool
  | c :: r => if isSlash c then fit ps r else none
  | [] => none

theorem isSome_behindSlash_iff :
    (behindSlash ps t).isSome ↔ ∃ v, t = .char '/' :: v ∧ (fit ps v).isSome := by
  cases t with
  | nil => simp [behindSlash]
  | cons c r => by_cases hc : c = .char '/' <;> simp [behindSlash, isSlash, hc]

theorem isSome_fit_above_iff : (fit (.above :: ps) t).isSome ↔ (fit ps t).isSome ∨
    ∃ u v, t = u ++ .char '/' :: v ∧ u ≠ [] ∧ (∀ c ∈ u, isInLine c = true) ∧ (fit ps v).isSome := by
  have hrun := @Text.isSome_longRun_iff _ isInLine (fun _ b ↦ b) (behindSlash ps) 1 t
  have hsplit : (∃ u r, t = u ++ r ∧ (∀ c ∈ u, isInLine c = true) ∧ 1 ≤ u.length ∧
      ∃ v, r = .char '/' :: v ∧ (fit ps v).isSome) ↔
      ∃ u v, t = u ++ .char '/' :: v ∧ u ≠ [] ∧ (∀ c ∈ u, isInLine c = true) ∧
        (fit ps v).isSome := by
    constructor
    · rintro ⟨u, r, rfl, hu, hlength, v, rfl, hv⟩
      exact ⟨u, v, rfl, List.ne_nil_of_length_pos hlength, hu, hv⟩
    · rintro ⟨u, v, rfl, hne, hu, hv⟩
      exact ⟨u, _, rfl, hu, List.length_pos_of_ne_nil hne, v, rfl, hv⟩
  simp only [isSome_behindSlash_iff] at hrun
  rw [hsplit] at hrun
  rw [← hrun, fit]
  split
  · rename_i b hb
    exact iff_of_true rfl (.inr (Option.isSome_iff_exists.mpr ⟨b, hb⟩))
  · rename_i hnone
    refine ⟨.inl, fun h ↦ h.resolve_right fun hsome ↦ ?_⟩
    obtain ⟨b, hb⟩ := Option.isSome_iff_exists.mp hsome
    cases hnone.symm.trans hb

theorem isSome_fit_stop_iff : (fit (.stop :: ps) t).isSome ↔
    t = [] ∨ t = [.char '\n'] ∨ ∃ r, t = .char '/' :: r := by
  cases t with
  | nil => simp [fit]
  | cons c r => by_cases hc : c = .char '/' <;> simp [fit, isSlash, isEnd, hc]

theorem isSome_fit_below_iff {told : Bool} : (fit (.below told :: ps) t).isSome ↔
    ∃ r, t = .char '/' :: r := by
  cases t with
  | nil => simp [fit]
  | cons c r => by_cases hc : c = .char '/' <;> simp [fit, isSlash, hc]

end Fit

/-- The shapes of rules that name files or directories at any depth. -/
inductive Shape.IsFloating : Shape → Prop
  | everything : IsFloating .everything
  | allBelow (told : Bool) : IsFloating (.allBelow told)
  | file {segment : List Piece} : (∀ p ∈ segment, p.isInner = true) →
      IsFloating (.pieces (.above :: (segment ++ [.stop])))
  | directory {segment : List Piece} (told : Bool) : (∀ p ∈ segment, p.isInner = true) →
      IsFloating (.pieces (.above :: (segment ++ [.below told])))

section Floating

variable {segment ps : List Piece} {name before behind : Text}

theorem isSome_fit_above_of_takes (hinner : ∀ p ∈ segment, p.isInner = true)
    (htakes : Takes segment name) (hps : (fit ps (.char '/' :: behind)).isSome)
    (hline : .char '\n' ∉ before)
    (hbefore : before = [] ∨ ∃ t, t ≠ [] ∧ before = t ++ [.char '/']) :
    (fit (.above :: (segment ++ ps)) (before ++ (name ++ .char '/' :: behind))).isSome := by
  have hhere : (fit (segment ++ ps) (name ++ .char '/' :: behind)).isSome :=
    (isSome_fit_append_iff hinner).mpr ⟨name, _, rfl, htakes, hps⟩
  rw [isSome_fit_above_iff]
  rcases hbefore with rfl | ⟨t, ht, rfl⟩
  · exact .inl hhere
  · refine .inr ⟨t, _, by rw [List.append_assoc]; rfl, ht, fun c hc ↦ ?_, hhere⟩
    have hne : c ≠ .char '\n' := by
      rintro rfl
      exact hline (List.mem_append_left _ hc)
    simpa [isInLine] using hne

theorem takes_of_isSome_fit_stop (hinner : ∀ p ∈ segment, p.isInner = true)
    (hname : .char '/' ∉ name) (hline : .char '\n' ∉ name)
    (h : (fit (.above :: (segment ++ [.stop])) name).isSome) : Takes segment name := by
  rw [isSome_fit_above_iff] at h
  rcases h with h | ⟨u, v, rfl, -⟩
  · obtain ⟨u, v, rfl, hu, hv⟩ := (isSome_fit_append_iff hinner).mp h
    rcases isSome_fit_stop_iff.mp hv with rfl | rfl | ⟨r, rfl⟩
    · rwa [List.append_nil]
    · exact absurd (List.mem_append_right _ List.mem_cons_self) hline
    · exact absurd (List.mem_append_right _ List.mem_cons_self) hname
  · exact absurd (List.mem_append_right _ List.mem_cons_self) hname

theorem slash_mem_of_isSome_fit_below {told : Bool} (hinner : ∀ p ∈ segment, p.isInner = true)
    (h : (fit (.above :: (segment ++ [.below told])) name).isSome) : .char '/' ∈ name := by
  rw [isSome_fit_above_iff] at h
  rcases h with h | ⟨u, v, rfl, -⟩
  · obtain ⟨u, v, rfl, -, hv⟩ := (isSome_fit_append_iff hinner).mp h
    obtain ⟨r, rfl⟩ := isSome_fit_below_iff.mp hv
    exact List.mem_append_right _ List.mem_cons_self
  · exact List.mem_append_right _ List.mem_cons_self

/-- A floating rule that fits the name of a directory fits all paths through that directory. -/
theorem Shape.IsFloating.fits_below {rule : Rule} (h : rule.shape.IsFloating)
    (hname : .char '/' ∉ name) (hlines : .char '\n' ∉ before ++ name)
    (hbefore : before = [] ∨ ∃ t, t ≠ [] ∧ before = t ++ [.char '/'])
    (hfit : (rule.fit? name).isSome) :
    (rule.fit? (before ++ (name ++ .char '/' :: behind))).isSome := by
  obtain ⟨hline, hline'⟩ : .char '\n' ∉ before ∧ .char '\n' ∉ name := by
    simpa using hlines
  rw [Rule.fit?] at hfit ⊢
  generalize rule.shape = shape at h hfit ⊢
  cases h with
  | everything =>
    dsimp only at hfit ⊢
    have hany : name.any isInLine = true := by
      by_contra hnone
      rw [if_neg hnone] at hfit
      cases hfit
    simp [hany]
  | allBelow told =>
    have hnone : name.any isSlash = false := by
      rw [List.any_eq_false]
      intro c hc hslash
      exact hname (of_decide_eq_true hslash ▸ hc)
    simp [hnone] at hfit
  | @file segment hinner =>
    have htakes := takes_of_isSome_fit_stop hinner hname hline' hfit
    exact isSome_fit_above_of_takes hinner htakes
      (isSome_fit_stop_iff.mpr (.inr (.inr ⟨behind, rfl⟩))) hline hbefore
  | @directory segment told hinner =>
    exact absurd (slash_mem_of_isSome_fit_below hinner hfit) hname

end Floating

end PackageAudit.Ignore
