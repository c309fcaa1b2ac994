import Mathlib.Data.List.Find
import Mathlib.Data.List.Induction
import Mathlib.Data.List.Lex

namespace PackageAudit.Lists

section Effects

variable {ε α β : Type}

theorem exists_of_bind_eq_ok {x : Except ε α} {f : α → Except ε β} {b : β}
    (h : x >>= f = .ok b) : ∃ a, x = .ok a ∧ f a = .ok b := by
  cases x with
  | error e => cases h
  | ok a => exact ⟨a, rfl, h⟩

theorem mapM_eq_ok {f : α → Except ε β} {g : α → β} {l : List α}
    (h : ∀ a ∈ l, f a = .ok (g a)) : l.mapM f = .ok (l.map g) := by
  induction l with
  | nil => rfl
  | cons a l ih =>
    rw [List.forall_mem_cons] at h
    rw [List.mapM_cons, h.1, ih h.2]
    rfl

theorem mapM_id_eq_some_iff {os : List (Option α)} {l : List α} :
    os.mapM id = some l ↔ os = l.map some := by
  induction os generalizing l with
  | nil => cases l <;> simp
  | cons o os ih =>
    rw [List.mapM_cons]
    cases o with
    | none => cases l <;> simp
    | some b =>
      cases l with
      | nil => simp [Option.bind_eq_some_iff]
      | cons a l => simpa [ih, Option.bind_eq_some_iff] using and_comm

theorem filterAuxM_eq_ok {f : α → Except ε Bool} {p : α → Bool} (h : ∀ a, f a = .ok (p a))
    (l kept : List α) : l.filterAuxM f kept = .ok ((l.filter p).reverse ++ kept) := by
  induction l generalizing kept with
  | nil => rfl
  | cons a l ih =>
    have hstep : (a :: l).filterAuxM f kept = l.filterAuxM f (cond (p a) (a :: kept) kept) := by
      rw [List.filterAuxM, h]
      rfl
    rw [hstep, ih, List.filter_cons]
    cases p a <;> simp

theorem filterM_eq_ok {f : α → Except ε Bool} {p : α → Bool} (h : ∀ a, f a = .ok (p a))
    (l : List α) : l.filterM f = .ok (l.filter p) := by
  have hfilter : l.filterM f = (l.filterAuxM f []).map List.reverse := by
    rw [List.filterM]
    cases l.filterAuxM f [] <;> rfl
  rw [hfilter, filterAuxM_eq_ok h, List.append_nil]
  exact congrArg Except.ok (List.reverse_reverse _)

theorem mem_of_filterAuxM_eq_ok {f : α → Except ε Bool} {l before after : List α}
    (h : l.filterAuxM f before = .ok after) : ∀ a ∈ after, a ∈ l ∨ a ∈ before := by
  induction l generalizing before with
  | nil =>
    obtain rfl := Except.ok.inj h
    exact fun a ha ↦ .inr ha
  | cons b l ih =>
    intro a ha
    obtain ⟨keep, -, h⟩ := exists_of_bind_eq_ok h
    rcases ih h a ha with hl | hbefore
    · exact .inl (List.mem_cons_of_mem b hl)
    · cases keep with
      | false => exact .inr hbefore
      | true =>
        rcases List.mem_cons.mp hbefore with rfl | hbefore
        · exact .inl List.mem_cons_self
        · exact .inr hbefore

theorem mem_of_filterM_eq_ok {f : α → Except ε Bool} {l kept : List α}
    (h : l.filterM f = .ok kept) : ∀ a ∈ kept, a ∈ l := by
  intro a ha
  obtain ⟨reversed, hreversed, hkept⟩ := exists_of_bind_eq_ok h
  obtain rfl := Except.ok.inj hkept
  exact (mem_of_filterAuxM_eq_ok hreversed a (List.mem_reverse.mp ha)).resolve_right
    List.not_mem_nil

end Effects

section Searches

variable {α : Type} {keep found : α → Bool}

theorem find?_filter_of_imp {l : List α} (h : ∀ a ∈ l, found a = true → keep a = true) :
    (l.filter keep).find? found = l.find? found := by
  rw [List.find?_filter]
  apply List.find?_congr
  intro a ha
  cases hf : found a with
  | false => simp
  | true => simp [h a ha hf]

theorem findIdx?_append_cons_iff {before after : List α} {a : α} :
    (before ++ a :: after).findIdx? found = some before.length ↔
      (∀ b ∈ before, found b = false) ∧ found a = true := by
  induction before with
  | nil => cases h : found a <;> simp [List.findIdx?_cons, h]
  | cons b before ih =>
    rw [List.cons_append, List.findIdx?_cons, List.forall_mem_cons, and_assoc, ← ih]
    cases found b <;> simp

/-- The first item that is found keeps being the first, at the index that counts what is kept. -/
theorem findIdx?_filter_iff {l : List α} (h : ∀ a ∈ l, found a = true → keep a = true) {i : Nat}
    {a : α} (hi : l[i]? = some a) (ha : keep a = true) :
    (l.filter keep).findIdx? found = some ((l.take i).countP keep) ↔
      l.findIdx? found = some i := by
  obtain ⟨hlt, heq⟩ := List.getElem?_eq_some_iff.mp hi
  have hsplit : l.take i ++ a :: l.drop (i + 1) = l := by
    rw [← heq, ← List.drop_eq_getElem_cons hlt, List.take_append_drop]
  have hlength : (l.take i).length = i := List.length_take_of_le (Nat.le_of_lt hlt)
  have hbefore : (∀ b ∈ (l.take i).filter keep, found b = false) ↔
      ∀ b ∈ l.take i, found b = false := by
    refine ⟨fun hb b hmem ↦ ?_, fun hb b hmem ↦ hb b (List.mem_of_mem_filter hmem)⟩
    cases hf : found b with
    | false => rfl
    | true =>
      have hkeep := h b (List.mem_of_mem_take hmem) hf
      rw [← hf]
      exact hb b (List.mem_filter.mpr ⟨hmem, hkeep⟩)
  have hkept : l.filter keep = (l.take i).filter keep ++ a :: (l.drop (i + 1)).filter keep := by
    rw [← List.filter_cons_of_pos ha, ← List.filter_append, hsplit]
  have hall : (l.take i ++ a :: l.drop (i + 1)).findIdx? found = some (l.take i).length ↔
      (∀ b ∈ l.take i, found b = false) ∧ found a = true := findIdx?_append_cons_iff
  rw [hsplit, hlength] at hall
  rw [hall, hkept, List.countP_eq_length_filter, findIdx?_append_cons_iff, hbefore]

/-- What is kept of a numbered list is numbered by what is kept before it. -/
theorem zipIdx_filter (l : List α) :
    (l.filter keep).zipIdx =
      (l.zipIdx.filter fun e ↦ keep e.1).map fun e ↦ (e.1, (l.take e.2).countP keep) := by
  induction l using List.reverseRecOn with
  | nil => rfl
  | append_singleton l a ih =>
    have hprefix : ((l.zipIdx.filter fun e ↦ keep e.1).map fun e ↦
        (e.1, ((l ++ [a]).take e.2).countP keep)) = (l.filter keep).zipIdx := by
      rw [ih]
      apply List.map_congr_left
      intro e he
      have hlt := List.snd_lt_of_mem_zipIdx (List.mem_of_mem_filter he)
      rw [List.take_append_of_le_length (by omega)]
    rw [List.filter_append, List.zipIdx_append, List.zipIdx_append, List.filter_append,
      List.map_append, hprefix]
    cases ha : keep a <;> simp [ha, List.countP_eq_length_filter]

/-- Where one condition implies the other and both hold equally often, they hold together. -/
theorem of_countP_eq {holds holds' : α → Bool} {l : List α}
    (himp : ∀ a ∈ l, holds a = true → holds' a = true)
    (heq : l.countP holds' = l.countP holds) : ∀ a ∈ l, holds' a = true → holds a = true := by
  have hboth : (l.filter holds').filter holds = l.filter holds := by
    rw [List.filter_filter]
    apply List.filter_congr
    intro a ha
    cases hh : holds a with
    | false => rfl
    | true => rw [himp a ha hh, Bool.true_and]
  have hlength : ((l.filter holds').filter holds).length = (l.filter holds').length := by
    rw [hboth, ← List.countP_eq_length_filter, ← List.countP_eq_length_filter, heq]
  have hall := List.length_filter_eq_length_iff.mp hlength
  intro a ha hh
  exact hall a (List.mem_filter.mpr ⟨ha, hh⟩)

end Searches

section Joins

variable {α β : Type}

theorem flatMap_filter (keep : α → Bool) (l : List α) (f : α → List β) :
    (l.filter keep).flatMap f = l.flatMap fun a ↦ if keep a then f a else [] := by
  induction l with
  | nil => rfl
  | cons a l ih => cases ha : keep a <;> simp [ha, ih]

theorem flatMap_ite_singleton (p : α → Bool) (f : α → β) (l : List α) :
    (l.flatMap fun a ↦ if p a then [f a] else []) = (l.filter p).map f := by
  rw [List.map_eq_flatMap, flatMap_filter]

theorem length_flatMap_le {f g : α → List β} {as : List α}
    (h : ∀ a ∈ as, f a = g a ∨ g a = []) : (as.flatMap g).length ≤ (as.flatMap f).length := by
  induction as with
  | nil => exact le_rfl
  | cons a as ih =>
    obtain ⟨ha, has⟩ := List.forall_mem_cons.mp h
    rw [List.flatMap_cons, List.flatMap_cons, List.length_append, List.length_append]
    refine Nat.add_le_add ?_ (ih has)
    rcases ha with ha | ha
    · exact ha ▸ le_rfl
    · simp [ha]

/-- If joins agree, and one adds nothing wherever it differs from the other, then they agree part by
part. -/
theorem forall_eq_of_flatMap_eq {f g : α → List β} {as : List α}
    (h : as.flatMap f = as.flatMap g) (hfg : ∀ a ∈ as, f a = g a ∨ g a = []) :
    ∀ a ∈ as, f a = g a := by
  induction as with
  | nil => simp
  | cons a as ih =>
    obtain ⟨ha, has⟩ := List.forall_mem_cons.mp hfg
    rw [List.flatMap_cons, List.flatMap_cons] at h
    have heq : f a = g a := by
      rcases ha with ha | ha
      · exact ha
      · have hsum := congrArg List.length h
        have hrest := length_flatMap_le has
        rw [ha, List.nil_append, List.length_append] at hsum
        rw [ha]
        exact List.length_eq_zero_iff.mp (by omega)
    rw [heq] at h
    exact List.forall_mem_cons.mpr ⟨heq, ih (List.append_cancel_left h) has⟩

end Joins

section Pieces

variable {α : Type} {p q : α → Bool}

theorem mem_of_mem_splitOnP {t : List α} :
    ∀ piece ∈ t.splitOnP p, ∀ a ∈ piece, a ∈ t ∧ p a = false := by
  induction t with
  | nil => simp
  | cons b t ih =>
    intro piece hpiece a ha
    rw [List.splitOnP_cons_eq_if_modifyHead] at hpiece
    split at hpiece
    · rcases List.mem_cons.mp hpiece with rfl | hpiece
      · cases ha
      · exact (ih piece hpiece a ha).imp_left (List.mem_cons_of_mem b)
    · rename_i hb
      obtain ⟨first, rest, hsplit⟩ := List.exists_cons_of_ne_nil (List.splitOnP_ne_nil p t)
      rw [hsplit] at hpiece ih
      rcases List.mem_cons.mp hpiece with rfl | hpiece
      · rcases List.mem_cons.mp ha with rfl | ha
        · exact ⟨List.mem_cons_self, Bool.eq_false_iff.mpr hb⟩
        · exact (ih first List.mem_cons_self a ha).imp_left (List.mem_cons_of_mem b)
      · exact (ih piece (List.mem_cons_of_mem first hpiece) a ha).imp_left (List.mem_cons_of_mem b)

theorem splitOnP_congr {l : List α} (h : ∀ a ∈ l, p a = q a) :
    l.splitOnP p = l.splitOnP q := by
  induction l with
  | nil => rfl
  | cons a l ih =>
    obtain ⟨ha, hl⟩ := List.forall_mem_cons.mp h
    rw [List.splitOnP_cons_eq_if_modifyHead, List.splitOnP_cons_eq_if_modifyHead, ha, ih hl]

theorem splitOnP_append {s t first : List α} {rest : List (List α)}
    (hs : ∀ a ∈ s, p a = false) (ht : t.splitOnP p = first :: rest) :
    (s ++ t).splitOnP p = (s ++ first) :: rest := by
  induction s with
  | nil => exact ht
  | cons a s ih =>
    obtain ⟨ha, hs⟩ := List.forall_mem_cons.mp hs
    rw [List.cons_append, List.splitOnP_cons_eq_if_modifyHead, ha, if_neg Bool.false_ne_true, ih hs]
    rfl

end Pieces

theorem isStrictTotalOrder_lex {α : Type} (r : α → α → Prop) [IsStrictTotalOrder α r] :
    IsStrictTotalOrder (List α) (List.Lex r) :=
  { isStrictWeakOrder_of_isOrderConnected with }

end PackageAudit.Lists
