import Mathlib.Data.List.Lex
import Mathlib.Data.Nat.Notation
import PackageAudit.Proofs.Lists
import PackageAudit.Text.CodePoint

namespace PackageAudit.CodePoint

theorem ofNat_toNat (c : CodePoint) : ofNat c.toNat = c := by
  cases c with
  | char c =>
    have hvalid : c.toNat < 0xD800 ∨ 0xDFFF < c.toNat ∧ c.toNat < 0x110000 := c.valid
    rw [toNat, ofNat, dif_neg (by omega), Char.ofNat_toNat]
  | surrogate s =>
    have hs : 0xD800 ≤ 0xD800 + s.val ∧ 0xD800 + s.val < 0xE000 := by omega
    rw [toNat, ofNat, dif_pos hs]
    simp

theorem toNat_injective {c d : CodePoint} (h : c.toNat = d.toNat) : c = d := by
  rw [← ofNat_toNat c, h, ofNat_toNat]

instance : IsStrictTotalOrder CodePoint fun c d ↦ c.toNat < d.toNat where
  irrefl _ := Nat.lt_irrefl _
  trans _ _ _ := Nat.lt_trans
  trichotomous c d h h' := toNat_injective (by omega)

theorem toNat_lt (c : CodePoint) : c.toNat < 0x110000 := by
  cases c with
  | char c =>
    have hvalid : c.toNat < 0xD800 ∨ 0xDFFF < c.toNat ∧ c.toNat < 0x110000 := c.valid
    rw [toNat]
    omega
  | surrogate s =>
    rw [toNat]
    omega

def IsHigh (c : CodePoint) : Prop := 0xD800 ≤ c.toNat ∧ c.toNat < 0xDC00

def IsLow (c : CodePoint) : Prop := 0xDC00 ≤ c.toNat ∧ c.toNat < 0xE000

instance : DecidablePred IsHigh := fun _ ↦ inferInstanceAs (Decidable (_ ∧ _))

instance : DecidablePred IsLow := fun _ ↦ inferInstanceAs (Decidable (_ ∧ _))

end PackageAudit.CodePoint

namespace PackageAudit.Text

theorem ofString_inj {s t : String} : ofString s = ofString t ↔ s = t := by
  rw [ofString, ofString, List.map_inj_right fun a b h ↦ by injection h, String.toList_inj]

theorem chars?_ofChars (cs : List Char) : chars? (ofChars cs) = some cs := by
  induction cs with
  | nil => rfl
  | cons c cs ih =>
    rw [chars?, ofChars] at ih ⊢
    rw [List.map_cons, List.mapM_cons, ih]
    rfl

variable {c : CodePoint} {t : Text}

theorem splitOn_of_not_mem (h : c ∉ t) : splitOn c t = [t] := by
  induction t with
  | nil => rfl
  | cons d t ih =>
    rw [List.mem_cons, not_or] at h
    rw [splitOn, if_neg fun heq ↦ h.1 heq.symm, ih h.2]

theorem splitOn_append_singleton (h : c ∉ t) : splitOn c (t ++ [c]) = [t, []] := by
  induction t with
  | nil => simp [splitOn]
  | cons d t ih =>
    rw [List.mem_cons, not_or] at h
    rw [List.cons_append, splitOn, if_neg fun heq ↦ h.1 heq.symm, ih h.2]

theorem splitOn_eq (c : CodePoint) (t : Text) : splitOn c t = List.splitOn c t := by
  induction t with
  | nil => rfl
  | cons d t ih =>
    rw [splitOn, ih, List.splitOn_eq_splitOnP, List.splitOn_eq_splitOnP, List.splitOnP_cons_eq_if_modifyHead]
    by_cases hd : d = c
    · simp [hd]
    · obtain ⟨first, rest, hsplit⟩ := List.exists_cons_of_ne_nil
        (List.splitOnP_ne_nil (· == c) t)
      simp [hd, hsplit]

theorem not_mem_of_mem_splitOn : ∀ piece ∈ splitOn c t, c ∉ piece := by
  intro piece hpiece hc
  rw [splitOn_eq, List.splitOn_eq_splitOnP] at hpiece
  obtain ⟨-, hne⟩ := Lists.mem_of_mem_splitOnP piece hpiece c hc
  simp at hne

theorem joinWith_eq (separator : Text) (ts : List Text) :
    joinWith separator ts = separator.intercalate ts := by
  induction ts with
  | nil => rfl
  | cons t ts ih =>
    cases ts with
    | nil => simp [joinWith]
    | cons u us =>
      rw [joinWith.eq_3 separator t (u :: us) (List.cons_ne_nil u us), ih,
        List.intercalate_cons_cons]

theorem splitOn_append_cons (s t : Text) :
    splitOn c (s ++ c :: t) = splitOn c s ++ splitOn c t := by
  simp only [splitOn_eq, List.splitOn_eq_splitOnP]
  exact List.splitOnP_append_cons s t (beq_self_eq_true c)

theorem splitOn_joinWith {ts : List Text} (hne : ts ≠ []) (h : ∀ t ∈ ts, c ∉ t) :
    splitOn c (joinWith [c] ts) = ts := by
  rw [splitOn_eq, joinWith_eq, List.splitOn_intercalate c h hne]

theorem mem_splitOn_iff {x : Text} : x ∈ splitOn c t ↔ c ∉ x ∧ ∃ u v, t = u ++ (x ++ v) ∧
    (u = [] ∨ ∃ w, u = w ++ [c]) ∧ (v = [] ∨ ∃ w, v = c :: w) := by
  constructor
  · intro h
    refine ⟨not_mem_of_mem_splitOn x h, ?_⟩
    induction hn : t.length using Nat.strongRecOn generalizing t with
    | ind n ih =>
      by_cases hc : c ∈ t
      · obtain ⟨first, rest, rfl, hfirst⟩ := List.eq_append_cons_of_mem hc
        rw [splitOn_append_cons, splitOn_of_not_mem hfirst, List.singleton_append,
          List.mem_cons] at h
        rcases h with rfl | h
        · exact ⟨[], _, rfl, .inl rfl, .inr ⟨rest, rfl⟩⟩
        · have hlt : rest.length < n := by
            rw [← hn, List.length_append, List.length_cons]
            omega
          obtain ⟨u, v, rfl, hu, hv⟩ := ih _ hlt h rfl
          refine ⟨first ++ c :: u, v, by simp, .inr ?_, hv⟩
          rcases hu with rfl | ⟨w, rfl⟩
          · exact ⟨first, rfl⟩
          · exact ⟨first ++ c :: w, by simp⟩
      · rw [splitOn_of_not_mem hc, List.mem_singleton] at h
        exact ⟨[], [], by simp [h], .inl rfl, .inl rfl⟩
  · rintro ⟨hx, u, v, rfl, hu, hv⟩
    have hbehind : x ∈ splitOn c (x ++ v) := by
      rcases hv with rfl | ⟨w, rfl⟩
      · rw [List.append_nil, splitOn_of_not_mem hx]
        exact List.mem_singleton_self x
      · rw [splitOn_append_cons, splitOn_of_not_mem hx]
        exact List.mem_cons_self
    rcases hu with rfl | ⟨w, rfl⟩
    · exact hbehind
    · rw [List.append_assoc, List.singleton_append, splitOn_append_cons]
      exact List.mem_append_right _ hbehind

theorem splitOn_cons_of_ne {d : CodePoint} {first : Text} {rest : List Text} (h : d ≠ c)
    (hsplit : splitOn c t = first :: rest) : splitOn c (d :: t) = (d :: first) :: rest := by
  rw [splitOn, if_neg h, hsplit]

theorem prefix_splitOn {x : Text} (hx : c ∉ x) (h : x <+: t) :
    ∃ first rest, splitOn c t = first :: rest ∧ x <+: first ∧ first <+: t := by
  induction t generalizing x with
  | nil => exact ⟨[], [], rfl, h, List.prefix_rfl⟩
  | cons d t ih =>
    by_cases hd : d = c
    · refine ⟨[], splitOn c t, by rw [splitOn, if_pos hd], ?_, List.nil_prefix⟩
      cases x with
      | nil => exact List.prefix_rfl
      | cons e x =>
        obtain ⟨rfl, -⟩ := List.cons_prefix_cons.mp h
        exact absurd (hd ▸ List.mem_cons_self) hx
    · cases x with
      | nil =>
        obtain ⟨first, rest, hsplit, -, hfirst⟩ := ih List.not_mem_nil List.nil_prefix
        exact ⟨_, rest, splitOn_cons_of_ne hd hsplit, List.nil_prefix,
          List.cons_prefix_cons.mpr ⟨rfl, hfirst⟩⟩
      | cons e x =>
        obtain ⟨rfl, hprefix⟩ := List.cons_prefix_cons.mp h
        obtain ⟨first, rest, hsplit, hxfirst, hfirst⟩ :=
          ih (fun hmem ↦ hx (List.mem_cons_of_mem e hmem)) hprefix
        exact ⟨_, rest, splitOn_cons_of_ne hd hsplit, List.cons_prefix_cons.mpr ⟨rfl, hxfirst⟩,
          List.cons_prefix_cons.mpr ⟨rfl, hfirst⟩⟩

theorem isInfix_of_mem_splitOn : ∀ piece ∈ splitOn c t, piece <:+: t := by
  induction t with
  | nil => simp [splitOn]
  | cons d t ih =>
    intro piece hpiece
    by_cases hd : d = c
    · rw [splitOn, if_pos hd] at hpiece
      rcases List.mem_cons.mp hpiece with rfl | hpiece
      · exact List.nil_infix
      · exact List.infix_cons (ih piece hpiece)
    · obtain ⟨first, rest, hsplit, -, hfirst⟩ := prefix_splitOn (c := c) List.not_mem_nil
        (List.nil_prefix (l := t))
      rw [splitOn_cons_of_ne hd hsplit] at hpiece
      rcases List.mem_cons.mp hpiece with rfl | hpiece
      · exact (List.cons_prefix_cons.mpr ⟨rfl, hfirst⟩).isInfix
      · exact List.infix_cons (ih piece (hsplit ▸ List.mem_cons_of_mem first hpiece))

/-- A stretch without the separator lies within one piece. -/
theorem exists_mem_splitOn_of_isInfix {x : Text} (hx : c ∉ x) (h : x <:+: t) :
    ∃ piece ∈ splitOn c t, x <:+: piece := by
  induction t with
  | nil => exact ⟨[], List.mem_singleton_self _, h⟩
  | cons d t ih =>
    rcases List.infix_cons_iff.mp h with h | h
    · obtain ⟨first, rest, hsplit, hfirst, -⟩ := prefix_splitOn hx h
      exact ⟨first, hsplit ▸ List.mem_cons_self, hfirst.isInfix⟩
    · obtain ⟨piece, hpiece, hstretch⟩ := ih h
      by_cases hd : d = c
      · refine ⟨piece, ?_, hstretch⟩
        rw [splitOn, if_pos hd]
        exact List.mem_cons_of_mem _ hpiece
      · obtain ⟨first, rest, hsplit, -, -⟩ := prefix_splitOn (c := c) List.not_mem_nil
          (List.nil_prefix (l := t))
        rw [splitOn_cons_of_ne hd hsplit]
        rw [hsplit] at hpiece
        rcases List.mem_cons.mp hpiece with rfl | hpiece
        · exact ⟨d :: piece, List.mem_cons_self, List.infix_cons hstretch⟩
        · exact ⟨piece, List.mem_cons_of_mem _ hpiece, hstretch⟩

theorem le_cons_iff {d : CodePoint} {s t : Text} : Text.le (c :: s) (d :: t) = true ↔
    c.toNat < d.toNat ∨ c.toNat = d.toNat ∧ Text.le s t = true := by
  simp [Text.le]

/-- The first difference of two texts decides: the one that ends there, or the smaller code point.
-/
def Precedes : Text → Text → Prop := List.Lex fun c d ↦ c.toNat < d.toNat

instance : IsStrictTotalOrder Text Precedes := Lists.isStrictTotalOrder_lex _

theorem le_iff {s t : Text} : Text.le s t = true ↔ s = t ∨ Precedes s t := by
  induction s generalizing t with
  | nil =>
    cases t with
    | nil => exact ⟨fun _ ↦ .inl rfl, fun _ ↦ rfl⟩
    | cons d t => exact ⟨fun _ ↦ .inr .nil, fun _ ↦ rfl⟩
  | cons c s ih =>
    cases t with
    | nil =>
      refine ⟨fun h ↦ (nomatch h), fun h ↦ ?_⟩
      rcases h with h | h <;> cases h
    | cons d t =>
      rw [le_cons_iff, ih, Precedes, List.cons_lex_cons_iff, List.cons.injEq, ← Precedes]
      constructor
      · rintro (h | ⟨h, h'⟩)
        · exact .inr (.inl h)
        · have heq := CodePoint.toNat_injective h
          exact h'.imp (⟨heq, ·⟩) fun h' ↦ .inr ⟨heq, h'⟩
      · rintro (⟨rfl, rfl⟩ | h | ⟨rfl, h⟩)
        · exact .inr ⟨rfl, .inl rfl⟩
        · exact .inl h
        · exact .inr ⟨rfl, .inr h⟩

protected theorem le_trans {s t u : Text} (h : Text.le s t = true) (h' : Text.le t u = true) :
    Text.le s u = true := by
  rw [le_iff] at h h' ⊢
  exact (partialOrderOfSO Precedes).le_trans s t u h h'

protected theorem le_total (s t : Text) : Text.le s t = true ∨ Text.le t s = true := by
  rw [le_iff, le_iff]
  rcases trichotomous_of Precedes s t with h | h | h
  · exact .inl (.inr h)
  · exact .inl (.inl h)
  · exact .inr (.inr h)

end PackageAudit.Text
