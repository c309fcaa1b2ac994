import Mathlib.Data.List.DropRight
import Mathlib.Data.List.TakeWhile
import PackageAudit.Proofs.Text.CodePoint
import PackageAudit.Text.Blank
import PackageAudit.Text.Case

namespace PackageAudit.CodePoint

def spaceNumbers : List ℕ :=
  [0x9, 0xa, 0xb, 0xc, 0xd, 0x1c, 0x1d, 0x1e, 0x1f, 0x20, 0x85, 0xa0, 0x1680, 0x2000, 0x2001, 0x2002,
   0x2003, 0x2004, 0x2005, 0x2006, 0x2007, 0x2008, 0x2009, 0x200a, 0x2028, 0x2029, 0x202f, 0x205f,
   0x3000]

theorem toNat_mem_spaceNumbers {c : CodePoint} (h : c.isSpace = true) : c.toNat ∈ spaceNumbers := by
  cases c with
  | surrogate s => cases h
  | char c =>
    have hnumber : ∀ d : Char, c.val ≤ d.val ↔ c.toNat ≤ d.toNat := fun d ↦ UInt32.le_iff_toNat_le
    have hnumber' : ∀ d : Char, d.val ≤ c.val ↔ d.toNat ≤ c.toNat := fun d ↦ UInt32.le_iff_toNat_le
    simp only [isSpace, Bool.or_eq_true, Bool.and_eq_true, decide_eq_true_eq, Char.le_def, hnumber,
      hnumber', ← Char.toNat_inj, Char.reduceToNat] at h
    simp only [spaceNumbers, toNat, List.mem_cons, List.not_mem_nil, or_false]
    omega

theorem isWord_eq_false_of_isSpace {c : CodePoint} (h : c.isSpace = true) : c.isWord = false := by
  have hnumbers : ∀ n ∈ spaceNumbers, (ofNat n).isWord = false := by decide +kernel
  rw [← ofNat_toNat c]
  exact hnumbers _ (toNat_mem_spaceNumbers h)

theorem isSpace_eq_false_of_isWord {c : CodePoint} (h : c.isWord = true) : c.isSpace = false := by
  by_contra hspace
  rw [isWord_eq_false_of_isSpace (Bool.of_not_eq_false hspace)] at h
  cases h

end PackageAudit.CodePoint

namespace PackageAudit.Text

variable {t u v x : Text} {c d : CodePoint}

theorem isInfix_of_isInfix_append (hc : c ∉ u) (h : c :: x <:+: u ++ t) : c :: x <:+: t := by
  induction u with
  | nil => exact h
  | cons e u ih =>
    rw [List.mem_cons, not_or] at hc
    rw [List.cons_append] at h
    rcases List.infix_cons_iff.mp h with h | h
    · exact absurd (List.cons_prefix_cons.mp h).1 hc.1
    · exact ih hc.2 h

/-- A stretch lies between what lacks its first code point and what lacks its last one. -/
theorem isInfix_of_isInfix_between (hc : c ∉ u) (hd : d ∉ v) (h : c :: (x ++ [d]) <:+: u ++ (t ++ v)) :
    c :: (x ++ [d]) <:+: t := by
  have hleft := List.reverse_infix.mpr (isInfix_of_isInfix_append hc h)
  have hd' : d ∉ v.reverse := fun hmem ↦ hd (List.mem_reverse.mp hmem)
  rw [List.reverse_append] at hleft
  have hturn : (c :: (x ++ [d])).reverse = d :: (x.reverse ++ [c]) := by simp
  rw [hturn] at hleft
  have hright := isInfix_of_isInfix_append hd' hleft
  rwa [← hturn, List.reverse_infix] at hright

theorem trim_eq (t : Text) : trim t = (t.dropWhile (·.isSpace)).rdropWhile (·.isSpace) := rfl

theorem trim_split (t : Text) : ∃ u v, t = u ++ (trim t ++ v) ∧ (∀ c ∈ u, c.isSpace = true) ∧
    ∀ c ∈ v, c.isSpace = true := by
  refine ⟨t.takeWhile (·.isSpace), (t.dropWhile (·.isSpace)).rtakeWhile (·.isSpace), ?_, ?_, ?_⟩
  · rw [trim_eq, List.rdropWhile_append_rtakeWhile, List.takeWhile_append_dropWhile]
  · exact fun c hc ↦ List.mem_takeWhile_imp hc
  · exact fun c hc ↦ List.mem_rtakeWhile_imp hc

theorem trim_isInfix (t : Text) : trim t <:+: t := by
  obtain ⟨u, v, ht, -, -⟩ := trim_split t
  exact ⟨u, v, by rw [List.append_assoc, ← ht]⟩

theorem isInfix_trim (hc : c.isSpace = false) (hd : d.isSpace = false)
    (h : c :: (x ++ [d]) <:+: t) : c :: (x ++ [d]) <:+: trim t := by
  obtain ⟨u, v, ht, hu, hv⟩ := trim_split t
  rw [ht] at h
  apply isInfix_of_isInfix_between ?_ ?_ h
  · intro hmem
    rw [hu c hmem] at hc
    cases hc
  · intro hmem
    rw [hv d hmem] at hd
    cases hd

theorem isSpace_of_mem_head?_trim : ∀ c ∈ (trim t).head?, c.isSpace = false := by
  intro c hc
  obtain ⟨r, hr⟩ : trim t <+: t.dropWhile (·.isSpace) := List.rdropWhile_prefix _ _
  have hstart : (t.dropWhile (·.isSpace)).head? = some c :=
    hr ▸ List.mem_head?_append_of_mem_head? hc
  have hnot := List.head?_dropWhile_not (·.isSpace) t
  rwa [hstart] at hnot

theorem isSpace_of_mem_getLast?_trim : ∀ c ∈ (trim t).getLast?, c.isSpace = false := by
  intro c hc
  obtain ⟨hne, rfl⟩ := List.mem_getLast?_eq_getLast hc
  exact Bool.eq_false_iff.mpr (List.rdropWhile_last_not _ _ hne)

theorem trimEnd_append (hblank : ∀ c ∈ v, c.isSpace = true)
    (hlast : ∀ c ∈ u.getLast?, c.isSpace = false) : trimEnd (u ++ v) = u := by
  have hstop : u.reverse.dropWhile (·.isSpace) = u.reverse := by
    cases u using List.reverseRecOn with
    | nil => rfl
    | append_singleton s c =>
      rw [List.reverse_concat, List.dropWhile_cons_of_neg (by simp [hlast c List.getLast?_concat])]
  rw [trimEnd, List.reverse_append, List.dropWhile_append_of_pos (by simpa using hblank), hstop,
    List.reverse_reverse]

theorem trim_append (hblank : ∀ c ∈ v, c.isSpace = true) (hne : u ≠ [])
    (hfirst : ∀ c ∈ u.head?, c.isSpace = false) (hlast : ∀ c ∈ u.getLast?, c.isSpace = false) :
    trim (u ++ v) = u := by
  obtain ⟨c, r, rfl⟩ := List.exists_cons_of_ne_nil hne
  have hstart : trimStart (c :: r ++ v) = c :: r ++ v := by
    rw [trimStart, List.cons_append, List.dropWhile_cons_of_neg (by simp [hfirst c rfl])]
  rw [trim, hstart, trimEnd_append hblank hlast]

theorem lines_cons_of_isLineEnd (hc : isLineEnd c = true) (r : Text) :
    ∃ s, lines (c :: r) = [] :: lines s ∧ (s = r ∨ r = .char '\n' :: s) := by
  by_cases hpair : ∃ s, c = .char '\r' ∧ r = .char '\n' :: s
  · obtain ⟨s, rfl, rfl⟩ := hpair
    exact ⟨s, rfl, .inr rfl⟩
  · refine ⟨r, ?_, .inl rfl⟩
    cases r with
    | nil => simp [lines, hc]
    | cons d r =>
      rw [lines, if_pos hc]
      rintro r rfl h
      exact hpair ⟨r, rfl, h⟩

theorem lines_cons (hc : isLineEnd c = false) (r : Text) : lines (c :: r) =
    match lines r with
    | [] => [[c]]
    | first :: rest => (c :: first) :: rest := by
  cases r with
  | nil => simp [lines, hc]
  | cons d r =>
    rw [lines, hc, if_neg Bool.false_ne_true]
    · by_cases hd : isLineEnd d = true
      · obtain ⟨s, hs, -⟩ := lines_cons_of_isLineEnd hd r
        rw [if_pos hd, hs]
      · exact if_neg hd
    · rintro r rfl -
      cases hc

/-- A text is cut at every line end, and what is not empty between two ends is a line. -/
theorem lines_eq_or (t : Text) : ∃ first ls ps, t.splitOnP isLineEnd = first :: ps ∧
    ls.filter (!·.isEmpty) = ps.filter (!·.isEmpty) ∧
    (lines t = first :: ls ∨ t = [] ∧ ls = []) := by
  induction t with
  | nil => exact ⟨[], [], [], rfl, rfl, .inr ⟨rfl, rfl⟩⟩
  | cons c r ih =>
    obtain ⟨first, ls, ps, hsplit, hfilter, hlines⟩ := ih
    rw [List.splitOnP_cons_eq_if_modifyHead, hsplit]
    cases hc : isLineEnd c with
    | true =>
      obtain ⟨s, hs, hrest⟩ := lines_cons_of_isLineEnd hc r
      refine ⟨[], lines s, first :: ps, rfl, ?_, .inl hs⟩
      have hr : (lines r).filter (!·.isEmpty) = (first :: ps).filter (!·.isEmpty) := by
        rcases hlines with hlines | ⟨rfl, rfl⟩
        · rw [hlines, List.filter_cons, List.filter_cons, hfilter]
        · obtain ⟨rfl, rfl⟩ := List.cons.inj hsplit
          rfl
      rcases hrest with rfl | rfl
      · exact hr
      · exact hr
    | false =>
      refine ⟨c :: first, ls, ps, rfl, hfilter, .inl ?_⟩
      rw [lines_cons hc]
      rcases hlines with hlines | ⟨rfl, rfl⟩
      · rw [hlines]
      · obtain ⟨rfl, -⟩ := List.cons.inj hsplit
        rfl

theorem filter_lines (t : Text) :
    (lines t).filter (!·.isEmpty) = (t.splitOnP isLineEnd).filter (!·.isEmpty) := by
  obtain ⟨first, ls, ps, hsplit, hfilter, hlines | ⟨rfl, rfl⟩⟩ := lines_eq_or t
  · rw [hsplit, hlines, List.filter_cons, List.filter_cons, hfilter]
  · rfl

end PackageAudit.Text
