import PackageAudit.Text.Case

namespace PackageAudit

namespace CodePoint

theorem toNat_of_ofNat_eq_char {n : Nat} {d : Char} (h : ofNat n = .char d) :
    d.toNat = n ∨ d.toNat = 0 := by
  unfold ofNat at h
  split at h
  · cases h
  · cases h
    by_cases hn : n.isValidChar
    · rw [Char.ofNat, dif_pos hn]
      exact .inl rfl
    · rw [Char.ofNat, dif_neg hn]
      exact .inr rfl

theorem toNat_ofNat_of_lt {n : Nat} (h : n < 0x80) : (ofNat n).toNat = n := by
  have hvalid : n.isValidChar := .inl (by omega)
  rw [ofNat, dif_neg (by omega), toNat, Char.ofNat, dif_pos hvalid]
  rfl

theorem lt_of_mem_capitals : ∀ e ∈ Text.PropertyTable.capitals, (0x60 : Int) < e.1 + e.2.2.2 := by
  decide +kernel

/-- A code point stays as it is, or becomes letters that do not come before `a`. -/
theorem mem_small_cases {c d : CodePoint} (h : d ∈ c.small) :
    d = c ∨ ∃ n, d = ofNat n ∧ 0x60 < n ∧ (c.isAscii = true → n < 0x80) := by
  rw [isAscii, decide_eq_true_eq]
  unfold small at h
  dsimp only at h
  split at h
  · split at h
    · rename_i hcapital
      rw [Bool.and_eq_true, decide_eq_true_eq, decide_eq_true_eq] at hcapital
      exact .inr ⟨_, List.mem_singleton.mp h, by omega, fun _ ↦ by omega⟩
    · exact .inl (List.mem_singleton.mp h)
  · rename_i hascii
    split at h
    · rcases List.mem_cons.mp h with h | h
      · exact .inr ⟨_, h, by omega, fun ha ↦ (hascii ha).elim⟩
      · exact .inr ⟨_, List.mem_singleton.mp h, by omega, fun ha ↦ (hascii ha).elim⟩
    · split at h
      · rename_i hfind
        have hfirst := List.find?_some hfind
        have habove := lt_of_mem_capitals _ (List.mem_of_find?_eq_some hfind)
        simp only [Bool.and_eq_true, decide_eq_true_eq] at hfirst habove
        exact .inr ⟨_, List.mem_singleton.mp h, by omega, fun ha ↦ (hascii ha).elim⟩
      · exact .inl (List.mem_singleton.mp h)

theorem eq_of_mem_small {c : CodePoint} {d : Char} (hd : .char d ∈ c.small) (h0 : d.toNat ≠ 0)
    (ha : d.toNat < 0x61) : c = .char d := by
  rcases mem_small_cases hd with hc | ⟨n, hn, hlow, -⟩
  · exact hc.symm
  · have hor := toNat_of_ofNat_eq_char hn.symm
    omega

theorem isAscii_of_mem_small {c d : CodePoint} (hc : c.isAscii = true) (hd : d ∈ c.small) :
    d.isAscii = true := by
  rcases mem_small_cases hd with rfl | ⟨n, rfl, -, hhigh⟩
  · exact hc
  · rw [isAscii, toNat_ofNat_of_lt (hhigh hc)]
    exact decide_eq_true (hhigh hc)

theorem small_ne_nil (c : CodePoint) : c.small ≠ [] := by
  unfold small
  dsimp only
  split
  · split <;> simp
  · split
    · simp
    · split <;> simp

end CodePoint

namespace Text

def IsAscii (t : Text) : Prop := ∀ c ∈ t, c.isAscii = true

instance : DecidablePred IsAscii := fun t ↦ inferInstanceAs (Decidable (∀ c ∈ t, c.isAscii = true))

def HasCapitalSigma (t : Text) : Prop := ∃ c ∈ t, c.toNat = 0x3a3

theorem lowerFrom_eq_flatMap {t : Text} (h : ¬ HasCapitalSigma t) (before : Text) :
    lowerFrom before t = t.flatMap CodePoint.small := by
  induction t generalizing before with
  | nil => rfl
  | cons c r ih =>
    have hc : c.toNat ≠ 0x3a3 := fun hc ↦ h ⟨c, List.mem_cons_self, hc⟩
    have hr : ¬ HasCapitalSigma r := fun ⟨d, hd, hs⟩ ↦ h ⟨d, List.mem_cons_of_mem c hd, hs⟩
    rw [lowerFrom, if_neg hc, ih hr, List.flatMap_cons]

theorem lower_eq_flatMap {t : Text} (h : ¬ HasCapitalSigma t) :
    lower t = t.flatMap CodePoint.small := lowerFrom_eq_flatMap h []

theorem lower_eq_nil_iff {t : Text} : lower t = [] ↔ t = [] := by
  constructor
  · intro h
    cases t with
    | nil => rfl
    | cons c r =>
      rw [lower, lowerFrom, List.append_eq_nil_iff] at h
      have hhere := h.1
      split at hhere
      · cases hhere
      · exact absurd hhere c.small_ne_nil
  · rintro rfl
    rfl

theorem not_hasCapitalSigma_of_isAscii_lowerFrom {before t : Text}
    (h : IsAscii (lowerFrom before t)) : ¬ HasCapitalSigma t := by
  induction t generalizing before with
  | nil => rintro ⟨c, hc, -⟩; cases hc
  | cons c r ih =>
    rw [lowerFrom] at h
    rintro ⟨d, hd, hs⟩
    rcases List.mem_cons.mp hd with rfl | hd
    · rw [if_pos hs] at h
      have hsmall := h _ (List.mem_append_left _ (List.mem_singleton.mpr rfl))
      split at hsmall <;> cases hsmall
    · exact ih (fun e he ↦ h e (List.mem_append_right _ he)) ⟨d, hd, hs⟩

theorem IsAscii.not_hasCapitalSigma {t : Text} (h : IsAscii t) : ¬ HasCapitalSigma t := by
  rintro ⟨c, hc, hs⟩
  have hascii := h c hc
  rw [CodePoint.isAscii, hs] at hascii
  cases hascii

theorem IsAscii.lower {t : Text} (h : IsAscii t) : IsAscii (lower t) := by
  rw [lower_eq_flatMap h.not_hasCapitalSigma]
  intro d hd
  obtain ⟨c, hc, hd⟩ := List.mem_flatMap.mp hd
  exact CodePoint.isAscii_of_mem_small (h c hc) hd

-- The Kelvin sign is not in ASCII, and its small letter is.
example : lower (ofString "\u212a\u00d6") = ofString "k\u00f6" := by decide

end Text

end PackageAudit
