import PackageAudit.Package.Identifier
import PackageAudit.Proofs.Text.Case

namespace PackageAudit.Package

open Text (IsAscii HasCapitalSigma)

def isJoint (c : CodePoint) : Bool := c == .char '-' || c == .char '_'

theorem normalize_eq (name : Text) : normalize name = Text.lower (name.filter (!isJoint ·)) := by
  simp only [normalize, isJoint, Bool.not_or]
  rfl

theorem isJoint_iff {c : CodePoint} : isJoint c = true ↔ c = .char '-' ∨ c = .char '_' := by
  simp [isJoint]

theorem filter_small (c : CodePoint) :
    c.small.filter (!isJoint ·) = if isJoint c then [] else c.small := by
  cases hc : isJoint c with
  | true => rcases isJoint_iff.mp hc with rfl | rfl <;> rfl
  | false =>
    rw [if_neg Bool.false_ne_true, List.filter_eq_self]
    intro d hd
    rw [Bool.not_eq_true', ← Bool.not_eq_true]
    intro hjoint
    have hsame : c = d := by
      rcases isJoint_iff.mp hjoint with rfl | rfl
      · exact CodePoint.eq_of_mem_small hd (by decide) (by decide)
      · exact CodePoint.eq_of_mem_small hd (by decide) (by decide)
    rw [hsame, hjoint] at hc
    cases hc

theorem flatMap_small_filter (t : Text) :
    (t.filter (!isJoint ·)).flatMap CodePoint.small =
      (t.flatMap CodePoint.small).filter (!isJoint ·) := by
  rw [List.filter_flatMap]
  induction t with
  | nil => rfl
  | cons c t ih =>
    rw [List.flatMap_cons, filter_small, ← ih]
    cases hc : isJoint c <;> simp [hc]

theorem normalize_eq_filter_lower {t : Text} (h : ¬ HasCapitalSigma t) :
    normalize t = (Text.lower t).filter (!isJoint ·) := by
  have hfilter : ¬ HasCapitalSigma (t.filter (!isJoint ·)) :=
    fun ⟨c, hc, hs⟩ ↦ h ⟨c, (List.mem_filter.mp hc).1, hs⟩
  rw [normalize_eq, Text.lower_eq_flatMap hfilter, Text.lower_eq_flatMap h, flatMap_small_filter]

/-- An identifier with the small letters of a name in ASCII has its normal form too. -/
theorem normalize_eq_of_lower_eq {name identifier : Text} (hn : IsAscii name)
    (h : Text.lower name = Text.lower identifier) : normalize name = normalize identifier := by
  have hi : IsAscii (Text.lower identifier) := h ▸ hn.lower
  rw [normalize_eq_filter_lower hn.not_hasCapitalSigma,
    normalize_eq_filter_lower (Text.not_hasCapitalSigma_of_isAscii_lowerFrom hi), h]

theorem resembles_iff {name : Text} (hn : IsAscii name) (identifier : Text) :
    resembles identifier name = true ↔ normalize name = normalize identifier := by
  simp only [resembles, Bool.or_eq_true, decide_eq_true_eq]
  exact or_iff_right_of_imp (normalize_eq_of_lower_eq hn)

/-- The names are in ASCII, and no two have the same normal form. -/
structure AreDistinguishable (names : List Text) : Prop where
  isAscii : ∀ name ∈ names, IsAscii name
  pairwise : names.Pairwise fun a b ↦ normalize a ≠ normalize b

section

variable {names names' : List Text}

theorem AreDistinguishable.perm (h : AreDistinguishable names) (hp : names.Perm names') :
    AreDistinguishable names' where
  isAscii := fun name hn ↦ h.isAscii name (hp.mem_iff.mpr hn)
  pairwise := h.pairwise.perm hp fun hne ↦ hne.symm

theorem AreDistinguishable.find?_resembles_eq_some_iff (h : AreDistinguishable names)
    {identifier name : Text} :
    names.find? (resembles identifier) = some name ↔
      name ∈ names ∧ normalize name = normalize identifier := by
  induction names with
  | nil => simp
  | cons n names ih =>
    obtain ⟨hne, hrest⟩ := List.pairwise_cons.mp h.pairwise
    have hn := resembles_iff (h.isAscii n List.mem_cons_self) identifier
    have ih := ih ⟨fun m hm ↦ h.isAscii m (List.mem_cons_of_mem n hm), hrest⟩
    by_cases hlike : resembles identifier n = true
    · rw [List.find?_cons_of_pos hlike, Option.some_inj]
      constructor
      · rintro rfl
        exact ⟨List.mem_cons_self, hn.mp hlike⟩
      · rintro ⟨hm, hname⟩
        rcases List.mem_cons.mp hm with rfl | hm
        · rfl
        · exact absurd ((hn.mp hlike).trans hname.symm) (hne name hm)
    · rw [List.find?_cons_of_neg hlike, ih, List.mem_cons]
      refine and_congr_left fun hname ↦ (or_iff_right ?_).symm
      rintro rfl
      exact hlike (hn.mpr hname)

theorem AreDistinguishable.ofIdentifier?_perm (h : AreDistinguishable names)
    (hp : names.Perm names') (identifier : Text) :
    ofIdentifier? names identifier = ofIdentifier? names' identifier := by
  have hfind : names.find? (resembles identifier) = names'.find? (resembles identifier) := by
    apply Option.ext
    intro name
    rw [h.find?_resembles_eq_some_iff, (h.perm hp).find?_resembles_eq_some_iff, hp.mem_iff]
  have hcontains (name : Text) : names.contains name = names'.contains name := hp.contains_eq
  simp only [ofIdentifier?, hfind, hcontains]

-- The normal form of the identifier starts with the small letter of the Kelvin sign.
example : resembles (Text.ofString "\u212anex_") "k-nex" = true := by decide

end

end PackageAudit.Package
