import PackageAudit.Proofs.Package.Likeness

namespace PackageAudit.Package

open Text (IsAscii)

variable {declared more : List Text} {identifier name package t : Text}

def StandsFor (identifier package : Text) : Prop :=
  ∃ c ∈ customary, Text.ofString c.1 = identifier ∧ Text.ofString c.2 = package

/-- A name that an identifier may be another spelling of. -/
def IsAlike (identifier name : Text) : Prop :=
  Text.lower name = Text.lower identifier ∨ normalize name = normalize identifier

structure IsFirst (P : Text → Prop) (names : List Text) (name : Text) : Prop where
  holds : P name
  first : ∃ before behind, names = before ++ name :: behind ∧ ∀ n ∈ before, ¬ P n

/-- What an identifier means among the declared packages. -/
inductive Means (declared : List Text) (identifier : Text) : Text → Prop
  | custom {package : Text} (h : StandsFor identifier package) (hmem : package ∈ declared) :
      Means declared identifier package
  | likeness {package : Text} (hcustom : ∀ q, StandsFor identifier q → q ∉ declared)
      (hne : identifier ≠ []) (h : IsFirst (IsAlike identifier) declared package) :
      Means declared identifier package

section Custom

theorem eq_of_customary : ∀ c ∈ customary, ∀ d ∈ customary,
    Text.ofString c.1 = Text.ofString d.1 → c = d := by
  decide

theorem customary_ne_nil : ∀ c ∈ customary, Text.ofString c.1 ≠ [] := by
  decide

theorem customary?_eq_some_iff : customary? identifier = some package ↔
    StandsFor identifier package := by
  rw [customary?, Option.map_eq_some_iff]
  constructor
  · rintro ⟨c, hfind, hpackage⟩
    have hname := List.find?_some hfind
    exact ⟨c, List.mem_of_find?_eq_some hfind, of_decide_eq_true hname, hpackage⟩
  · rintro ⟨c, hc, hname, hpackage⟩
    have hsome : (customary.find? fun c ↦ Text.ofString c.1 = identifier).isSome := by
      rw [List.find?_isSome]
      exact ⟨c, hc, decide_eq_true hname⟩
    obtain ⟨d, hfind⟩ := Option.isSome_iff_exists.mp hsome
    have hd := of_decide_eq_true (List.find?_some hfind :)
    have hcd := eq_of_customary c hc d (List.mem_of_find?_eq_some hfind) (hname.trans hd.symm)
    exact ⟨d, hfind, hcd ▸ hpackage⟩

theorem StandsFor.ne_nil (h : StandsFor identifier package) : identifier ≠ [] := by
  obtain ⟨c, hc, rfl, -⟩ := h
  exact customary_ne_nil c hc

theorem StandsFor.unique {package' : Text} (h : StandsFor identifier package)
    (h' : StandsFor identifier package') : package = package' := by
  rw [← customary?_eq_some_iff] at h h'
  exact Option.some_inj.mp (h.symm.trans h')

end Custom

section Likeness

theorem resembles_eq_true_iff : resembles identifier name = true ↔ IsAlike identifier name := by
  rw [resembles, Bool.or_eq_true, decide_eq_true_eq, decide_eq_true_eq, IsAlike]

theorem find?_resembles_eq_some_iff : declared.find? (resembles identifier) = some package ↔
    IsFirst (IsAlike identifier) declared package := by
  rw [List.find?_eq_some_iff_append]
  simp only [Bool.not_eq_true', ← Bool.not_eq_true, resembles_eq_true_iff]
  exact ⟨fun h ↦ ⟨h.1, h.2⟩, fun h ↦ ⟨h.holds, h.first⟩⟩

theorem IsFirst.mem {P : Text → Prop} (h : IsFirst P declared package) : package ∈ declared := by
  obtain ⟨before, behind, rfl, -⟩ := h.first
  exact List.mem_append_right before List.mem_cons_self

theorem IsFirst.append {P : Text → Prop} (h : IsFirst P declared package) (more : List Text) :
    IsFirst P (declared ++ more) package := by
  obtain ⟨before, behind, rfl, hbefore⟩ := h.first
  exact ⟨h.holds, before, behind ++ more, by simp, hbefore⟩

end Likeness

section Meaning

theorem ofIdentifier?_of_standsFor (h : StandsFor identifier package) (hmem : package ∈ declared) :
    ofIdentifier? declared identifier = some package := by
  have hne : ¬ identifier.isEmpty := fun hnil ↦ h.ne_nil (List.isEmpty_iff.mp hnil)
  rw [ofIdentifier?, if_neg hne, customary?_eq_some_iff.mpr h]
  exact if_pos (List.contains_iff_mem.mpr hmem)

theorem ofIdentifier?_of_not_standsFor (hcustom : ∀ q, StandsFor identifier q → q ∉ declared)
    (hne : identifier ≠ []) :
    ofIdentifier? declared identifier = declared.find? (resembles identifier) := by
  rw [ofIdentifier?, if_neg fun hnil ↦ hne (List.isEmpty_iff.mp hnil)]
  cases h : customary? identifier with
  | none => rfl
  | some package =>
    have hmem := hcustom package (customary?_eq_some_iff.mp h)
    exact if_neg fun hcontains ↦ hmem (List.contains_iff_mem.mp hcontains)

theorem ofIdentifier?_eq_some_iff :
    ofIdentifier? declared identifier = some package ↔ Means declared identifier package := by
  by_cases hcustom : ∃ q, StandsFor identifier q ∧ q ∈ declared
  · obtain ⟨q, hq, hmem⟩ := hcustom
    rw [ofIdentifier?_of_standsFor hq hmem, Option.some_inj]
    constructor
    · rintro rfl
      exact .custom hq hmem
    · intro h
      cases h with
      | custom h _ => exact hq.unique h
      | likeness hcustom _ _ => exact absurd hmem (hcustom q hq)
  · have hnone : ∀ q, StandsFor identifier q → q ∉ declared :=
      fun q hq hmem ↦ hcustom ⟨q, hq, hmem⟩
    by_cases hne : identifier = []
    · subst hne
      refine iff_of_false (fun h ↦ nomatch h) fun h ↦ ?_
      cases h with
      | custom h _ => exact h.ne_nil rfl
      | likeness _ hne _ => exact hne rfl
    · rw [ofIdentifier?_of_not_standsFor hnone hne, find?_resembles_eq_some_iff]
      constructor
      · exact .likeness hnone hne
      · intro h
        cases h with
        | custom h hmem => exact absurd hmem (hnone _ h)
        | likeness _ _ h => exact h

theorem Means.mem (h : Means declared identifier package) : package ∈ declared := by
  cases h with
  | custom _ hmem => exact hmem
  | likeness _ _ h => exact h.mem

theorem Means.append (h : Means declared identifier package)
    (hmore : ∀ q, StandsFor identifier q → q ∉ more) :
    Means (declared ++ more) identifier package := by
  cases h with
  | custom h hmem => exact .custom h (List.mem_append_left more hmem)
  | likeness hcustom hne h =>
    refine .likeness (fun q hq hmem ↦ ?_) hne (h.append more)
    exact (List.mem_append.mp hmem).elim (hcustom q hq) (hmore q hq)

theorem ofIdentifier?_eq_none_iff : ofIdentifier? declared identifier = none ↔
    (∀ q, StandsFor identifier q → q ∉ declared) ∧
      (identifier = [] ∨ ∀ name ∈ declared, ¬ IsAlike identifier name) := by
  constructor
  · intro h
    have hcustom : ∀ q, StandsFor identifier q → q ∉ declared := fun q hq hmem ↦ by
      rw [ofIdentifier?_of_standsFor hq hmem] at h
      cases h
    refine ⟨hcustom, Decidable.or_iff_not_imp_left.mpr fun hne name hmem halike ↦ ?_⟩
    rw [ofIdentifier?_of_not_standsFor hcustom hne, List.find?_eq_none] at h
    exact h name hmem (resembles_eq_true_iff.mpr halike)
  · rintro ⟨hcustom, rfl | halike⟩
    · rfl
    · rw [Option.eq_none_iff_forall_ne_some]
      intro package h
      cases ofIdentifier?_eq_some_iff.mp h with
      | custom h hmem => exact hcustom package h hmem
      | likeness _ _ h => exact halike package h.mem h.holds

/-- An identifier stands for the declared package of which it is a customary name, or else for the
first one whose name is alike; for none only if there is neither. More declarations behind the
others change an answer only if they bring in the package of a customary name. -/
theorem ofIdentifier?_isFirstMatch (declared : List Text) (identifier : Text) :
    (∀ package, ofIdentifier? declared identifier = some package ↔
      Means declared identifier package) ∧
    (∀ package, ofIdentifier? declared identifier = some package → package ∈ declared) ∧
    (ofIdentifier? declared identifier = none ↔
      (∀ q, StandsFor identifier q → q ∉ declared) ∧
        (identifier = [] ∨ ∀ name ∈ declared, ¬ IsAlike identifier name)) ∧
    ∀ more package, ofIdentifier? declared identifier = some package →
      (∀ q, StandsFor identifier q → q ∉ more) →
        ofIdentifier? (declared ++ more) identifier = some package := by
  refine ⟨fun package ↦ ofIdentifier?_eq_some_iff, fun package h ↦ ?_, ofIdentifier?_eq_none_iff,
    fun more package h hmore ↦ ?_⟩
  · exact (ofIdentifier?_eq_some_iff.mp h).mem
  · exact ofIdentifier?_eq_some_iff.mpr ((ofIdentifier?_eq_some_iff.mp h).append hmore)

theorem ofIdentifier?_isFirstMatch_undeclaredCustom :
    let declared : List Text := ["left-pad", "re_act", "REACT"]
    let more : List Text := ["preact", "Re-act"]
    (ofIdentifier? declared "React" = some "re_act" ∧ ∀ q, StandsFor "React" q → q ∉ more) ∧
      Means declared "React" "re_act" ∧ ofIdentifier? (declared ++ more) "React" = some "re_act" := by
  intro declared more
  have h : ofIdentifier? declared "React" = some "re_act" := by decide
  have hmore : ∀ q, StandsFor "React" q → q ∉ more := by
    have hcustom : ∀ c ∈ customary, Text.ofString c.1 = "React" → Text.ofString c.2 ∉ more := by
      decide
    rintro q ⟨c, hc, hname, rfl⟩
    exact hcustom c hc hname
  obtain ⟨hmeans, -, -, happend⟩ := ofIdentifier?_isFirstMatch declared "React"
  exact ⟨⟨h, hmore⟩, (hmeans _).mp h, happend more _ h hmore⟩

end Meaning

section Joints

/-- The name has neither letters nor digits, but hyphens and low lines alone, or nothing at all. -/
def IsOfJoints (name : Text) : Prop := ∀ c ∈ name, isJoint c = true

theorem normalize_eq_nil_iff : normalize t = [] ↔ IsOfJoints t := by
  rw [normalize_eq, Text.lower_eq_nil_iff, List.filter_eq_nil_iff]
  simp [IsOfJoints]

theorem isAscii_of_isJoint {c : CodePoint} (h : isJoint c = true) : c.isAscii = true := by
  rcases isJoint_iff.mp h with rfl | rfl <;> rfl

theorem IsOfJoints.isAscii (h : IsOfJoints t) : IsAscii t := fun c hc ↦ isAscii_of_isJoint (h c hc)

theorem IsOfJoints.lower_eq (h : IsOfJoints t) : Text.lower t = t := by
  rw [Text.lower_eq_flatMap h.isAscii.not_hasCapitalSigma]
  induction t with
  | nil => rfl
  | cons c t ih =>
    obtain ⟨hc, ht⟩ := List.forall_mem_cons.mp h
    have hsmall : c.small = [c] := by rcases isJoint_iff.mp hc with rfl | rfl <;> rfl
    rw [List.flatMap_cons, hsmall, ih ht, List.singleton_append]

theorem IsOfJoints.isAlike_iff (h : IsOfJoints identifier) (name : Text) :
    IsAlike identifier name ↔ IsOfJoints name := by
  rw [← normalize_eq_nil_iff] at h
  rw [IsAlike, ← normalize_eq_nil_iff, ← h]
  refine or_iff_right_of_imp fun hlower ↦ ?_
  exact (normalize_eq_of_lower_eq (normalize_eq_nil_iff.mp h).isAscii hlower.symm).symm

theorem IsOfJoints.isFirst_iff (h : IsOfJoints identifier) :
    IsFirst (IsAlike identifier) declared name ↔ IsFirst IsOfJoints declared name := by
  rw [funext fun n ↦ propext (h.isAlike_iff n)]

/-- Likeness rests on letters: a name that is not the identifier itself in small letters has a
normal form, and there is something in it. -/
def MatchesByLetters (declared : List Text) (identifier : Text) : Prop :=
  ∀ package, ofIdentifier? declared identifier = some package →
    (∀ q, StandsFor identifier q → q ∉ declared) →
      Text.lower package ≠ Text.lower identifier →
        normalize package = normalize identifier ∧ normalize identifier ≠ []

theorem Means.isFirst (h : Means declared identifier package)
    (hcustom : ∀ q, StandsFor identifier q → q ∉ declared) :
    IsFirst (IsAlike identifier) declared package := by
  cases h with
  | custom h hmem => exact absurd hmem (hcustom _ h)
  | likeness _ _ h => exact h

/-- Likeness rests on letters unless the identifier has none, and stands first for another name that
has none either. -/
theorem matchesByLetters_iff (declared : List Text) (identifier : Text) :
    MatchesByLetters declared identifier ↔
      ¬ IsOfJoints identifier ∨ identifier = [] ∨ (∃ q ∈ declared, StandsFor identifier q) ∨
        ∀ name, IsFirst IsOfJoints declared name → name = identifier := by
  constructor
  · intro h
    simp only [Classical.or_iff_not_imp_left, Classical.not_not]
    intro hjoints hne hnone name hfirst
    have hcustom : ∀ q, StandsFor identifier q → q ∉ declared :=
      fun q hq hmem ↦ hnone ⟨q, hmem, hq⟩
    have hmeans : Means declared identifier name :=
      .likeness hcustom hne (hjoints.isFirst_iff.mpr hfirst)
    apply Decidable.byContradiction
    intro hother
    have hlower : Text.lower name ≠ Text.lower identifier := by
      rwa [hfirst.holds.lower_eq, hjoints.lower_eq]
    have hletter := (h name (ofIdentifier?_eq_some_iff.mpr hmeans) hcustom hlower).2
    exact hletter (normalize_eq_nil_iff.mpr hjoints)
  · intro h package hpackage hcustom hlower
    have hfirst := (ofIdentifier?_eq_some_iff.mp hpackage).isFirst hcustom
    refine ⟨hfirst.holds.resolve_left hlower, fun hnil ↦ ?_⟩
    have hjoints := normalize_eq_nil_iff.mp hnil
    rcases h with hletter | rfl | ⟨q, hmem, hq⟩ | hself
    · exact hletter hjoints
    · cases hpackage
    · exact hcustom q hq hmem
    · exact hlower (congrArg Text.lower (hself package (hjoints.isFirst_iff.mp hfirst)))

/-- Two low lines stand for the package that is called by a hyphen. -/
theorem not_matchesByLetters_hyphen : ¬ MatchesByLetters ["-"] "__" := by
  intro h
  have hcustom : ∀ q, StandsFor "__" q → q ∉ (["-"] : List Text) := by
    have hnone : ∀ c ∈ customary, Text.ofString c.1 ≠ "__" := by decide
    rintro q ⟨c, hc, hname, -⟩
    exact absurd hname (hnone c hc)
  exact (h "-" (by decide) hcustom (by decide)).2 (by decide)

end Joints

end PackageAudit.Package
