import Mathlib.Data.List.Chain
import PackageAudit.Proofs.Lists
import PackageAudit.Proofs.Text.CodePoint
import PackageAudit.Text.Blank

namespace PackageAudit.Text

variable {s t u v w x : Text} {c : CodePoint}

section Words

theorem words_eq (t : Text) : words t = (t.splitOnP (·.isSpace)).filter (!·.isEmpty) := by
  induction t with
  | nil => rfl
  | cons c r ih =>
    rw [List.splitOnP_cons_eq_if_modifyHead]
    cases hc : c.isSpace with
    | true => simp [words, hc, ih]
    | false =>
      cases r with
      | nil => simp [words, hc]
      | cons d r =>
        obtain ⟨first, rest, hr⟩ := List.exists_cons_of_ne_nil (List.splitOnP_ne_nil (·.isSpace) r)
        rw [List.splitOnP_cons_eq_if_modifyHead, hr] at ih ⊢
        cases hd : d.isSpace with
        | true => simpa [words, hc, hd] using ih
        | false =>
          have hwords : words (d :: r) = (d :: first) :: rest.filter (!·.isEmpty) := by
            simpa [hd] using ih
          rw [words, hwords]
          simp [hc, hd]

theorem mem_words (h : w ∈ words t) : w ≠ [] ∧ ∀ c ∈ w, c.isSpace = false := by
  rw [words_eq] at h
  obtain ⟨hpiece, hne⟩ := List.mem_filter.mp h
  exact ⟨by simpa using hne, fun c hc ↦ (Lists.mem_of_mem_splitOnP w hpiece c hc).2⟩

theorem words_append_cons (hc : c.isSpace = true) (u v : Text) :
    words (u ++ c :: v) = words u ++ words v := by
  rw [words_eq, words_eq, words_eq, List.splitOnP_append_cons u v hc, List.filter_append]

theorem words_blank_append (hw : ∀ c ∈ w, c.isSpace = true) (t : Text) :
    words (w ++ t) = words t := by
  induction w with
  | nil => rfl
  | cons c w ih =>
    obtain ⟨hc, hw⟩ := List.forall_mem_cons.mp hw
    exact (words_append_cons hc [] (w ++ t)).trans (ih hw)

theorem words_append_blank_append (hw : ∀ c ∈ w, c.isSpace = true) (hne : w ≠ []) (u v : Text) :
    words (u ++ (w ++ v)) = words u ++ words v := by
  obtain ⟨c, w, rfl⟩ := List.exists_cons_of_ne_nil hne
  obtain ⟨hc, hw⟩ := List.forall_mem_cons.mp hw
  rw [List.cons_append, words_append_cons hc, words_blank_append hw]

theorem words_append_blank (hw : ∀ c ∈ w, c.isSpace = true) (t : Text) :
    words (t ++ w) = words t := by
  cases w with
  | nil => rw [List.append_nil]
  | cons c w => simpa [words] using words_append_blank_append hw (List.cons_ne_nil c w) t []

/-- The texts differ in their white space: in how much and which of it stands where both have some,
and at the ends. -/
inductive Respaced : Text → Text → Prop
  | between {u v w x : Text} : (∀ c ∈ w, c.isSpace = true) → w ≠ [] → (∀ c ∈ x, c.isSpace = true) →
      x ≠ [] → Respaced (u ++ (w ++ v)) (u ++ (x ++ v))
  | around {t w x : Text} : (∀ c ∈ w, c.isSpace = true) → (∀ c ∈ x, c.isSpace = true) →
      Respaced t (w ++ (t ++ x))
  | trans {s t u : Text} : Respaced s t → Respaced t u → Respaced s u

theorem Respaced.words_eq (h : Respaced s t) : words t = words s := by
  induction h with
  | between hw hwne hx hxne =>
    rw [words_append_blank_append hw hwne, words_append_blank_append hx hxne]
  | around hw hx => rw [words_blank_append hw, words_append_blank hx]
  | trans _ _ ih ih' => exact ih'.trans ih

end Words

section Lines

/-- White space stands alone, as a space, and behind something else. -/
structure IsSpaced (t : Text) : Prop where
  space : ∀ c ∈ t, c.isSpace = true → c = .char ' '
  alone : t.IsChain fun c d ↦ c.isSpace = false ∨ d.isSpace = false
  first : ∀ c ∈ t.head?, c.isSpace = false

/-- White space stands alone, as a space, and between other code points. -/
structure IsLine (t : Text) : Prop extends IsSpaced t where
  last : ∀ c ∈ t.getLast?, c.isSpace = false

theorem isLine_of_forall (h : ∀ c ∈ t, c.isSpace = false) : IsLine t where
  space c hc hspace := by
    rw [h c hc] at hspace
    cases hspace
  alone := (List.pairwise_of_forall_mem_list fun c hc _ _ ↦ .inl (h c hc)).isChain
  first c hc := h c (List.mem_of_mem_head? hc)
  last c hc := h c (List.mem_of_mem_getLast? hc)

theorem IsSpaced.take (h : IsSpaced t) (n : ℕ) : IsSpaced (t.take n) where
  space c hc := h.space c (List.mem_of_mem_take hc)
  alone := h.alone.take n
  first := by
    intro c hc
    rw [List.head?_take] at hc
    split at hc
    · cases hc
    · exact h.first c hc

theorem IsSpaced.append (hu : IsSpaced u) (hv : IsLine v) (hne : v ≠ []) : IsLine (u ++ v) where
  space := List.forall_mem_append.mpr ⟨hu.space, hv.space⟩
  alone := hu.alone.append hv.alone fun _ _ d hd ↦ .inr (hv.first d hd)
  first := by
    cases u with
    | nil => exact hv.first
    | cons c u => exact hu.first
  last := by
    rw [List.getLast?_append_of_ne_nil u hne]
    exact hv.last

theorem isSpaced_append_space (hw : ∀ c ∈ w, c.isSpace = false) (hne : w ≠ []) :
    IsSpaced (w ++ [.char ' ']) where
  space := by
    refine List.forall_mem_append.mpr ⟨(isLine_of_forall hw).space, fun c hc _ ↦ ?_⟩
    exact List.mem_singleton.mp hc
  alone := (isLine_of_forall hw).alone.append (List.isChain_singleton _) fun c hc _ _ ↦
    .inl (hw c (List.mem_of_mem_getLast? hc))
  first := by
    rw [List.head?_append_of_ne_nil w hne]
    exact (isLine_of_forall hw).first

theorem isLine_joinWith {ws : List Text} (h : ∀ w ∈ ws, w ≠ [] ∧ ∀ c ∈ w, c.isSpace = false) :
    IsLine (joinWith [.char ' '] ws) := by
  induction ws with
  | nil => exact isLine_of_forall (by simp [joinWith])
  | cons w ws ih =>
    obtain ⟨⟨hne, hw⟩, hws⟩ := List.forall_mem_cons.mp h
    cases ws with
    | nil => exact isLine_of_forall hw
    | cons x ws =>
      have hrest : joinWith [.char ' '] (x :: ws) ≠ [] := by
        cases ws <;> simp [joinWith, (hws x List.mem_cons_self).1]
      exact (isSpaced_append_space hw hne).append (ih hws) hrest

theorem oneLine_eq (t : Text) : oneLine t = joinWith [.char ' '] (words t) := rfl

theorem isLine_oneLine (t : Text) : IsLine (oneLine t) := isLine_joinWith fun _ ↦ mem_words

theorem IsLine.ne_nil_of_mem_splitOn (h : IsLine t) (hne : t ≠ []) :
    ∀ piece ∈ splitOn (.char ' ') t, piece ≠ [] := by
  have hspace : CodePoint.isSpace (.char ' ') ≠ false := by decide
  rintro piece hpiece rfl
  obtain ⟨-, u, v, rfl, hu, hv⟩ := mem_splitOn_iff.mp hpiece
  rcases hu with rfl | ⟨u, rfl⟩ <;> rcases hv with rfl | ⟨v, rfl⟩
  · exact hne rfl
  · exact hspace (h.first _ rfl)
  · exact hspace (h.last _ (by simp))
  · have hpair := (List.isChain_append.mp h.alone).2.2 (.char ' ') (by simp) (.char ' ') rfl
    exact hpair.elim hspace hspace

/-- The texts that are their own lines. -/
theorem oneLine_eq_self_iff : oneLine t = t ↔ IsLine t := by
  constructor
  · intro h
    exact h ▸ isLine_oneLine t
  · intro h
    rcases eq_or_ne t [] with rfl | hne
    · rfl
    · have hsplit : t.splitOnP (·.isSpace) = splitOn (.char ' ') t := by
        rw [splitOn_eq, List.splitOn_eq_splitOnP]
        apply Lists.splitOnP_congr
        intro c hc
        rw [Bool.eq_iff_iff, beq_iff_eq]
        refine ⟨h.space c hc, ?_⟩
        rintro rfl
        decide
      have hkeep : (splitOn (.char ' ') t).filter (!·.isEmpty) = splitOn (.char ' ') t := by
        rw [List.filter_eq_self]
        intro piece hpiece
        simpa using h.ne_nil_of_mem_splitOn hne piece hpiece
      rw [oneLine_eq, words_eq, hsplit, hkeep, splitOn_eq, joinWith_eq, List.intercalate_splitOn]

end Lines

end PackageAudit.Text
