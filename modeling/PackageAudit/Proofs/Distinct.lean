import Mathlib.Data.List.Induction
import Mathlib.Data.List.Nodup
import PackageAudit.Usage.Record

namespace PackageAudit.Distinct

section

variable {α : Type} [BEq α] [LawfulBEq α]

theorem eraseDups_append_of_subset {as bs : List α} (h : ∀ b ∈ bs, b ∈ as) :
    (as ++ bs).eraseDups = as.eraseDups := by
  have hnone : bs.removeAll as = [] := by
    rw [List.removeAll, List.filter_eq_nil_iff]
    intro b hb
    simp [h b hb]
  rw [List.eraseDups_append, hnone, List.eraseDups_nil, List.append_nil]

theorem eraseDups_concat_of_mem {l : List α} {a : α} (h : a ∈ l) :
    (l ++ [a]).eraseDups = l.eraseDups :=
  eraseDups_append_of_subset fun _ hb ↦ List.mem_singleton.mp hb ▸ h

theorem eraseDups_concat_of_notMem {l : List α} {a : α} (h : a ∉ l) :
    (l ++ [a]).eraseDups = l.eraseDups ++ [a] := by
  have hone : [a].removeAll l = [a] := by simp [List.removeAll, h]
  rw [List.eraseDups_append, hone, List.eraseDups_cons]
  rfl

theorem eraseDups_append_of_forall_eq {as bs : List α} {a : α} (hne : bs ≠ [])
    (h : ∀ b ∈ bs, b = a) : (as ++ bs).eraseDups = (as ++ [a]).eraseDups := by
  obtain ⟨b, bs, rfl⟩ := List.exists_cons_of_ne_nil hne
  obtain ⟨rfl, hbs⟩ := List.forall_mem_cons.mp h
  have hsplit : as ++ b :: bs = as ++ [b] ++ bs := by simp
  rw [hsplit]
  exact eraseDups_append_of_subset fun c hc ↦ by simp [hbs c hc]

theorem nodup_eraseDups (l : List α) : l.eraseDups.Nodup := by
  induction l using List.reverseRecOn with
  | nil => exact List.nodup_nil
  | append_singleton l a ih =>
    by_cases h : a ∈ l
    · rwa [eraseDups_concat_of_mem h]
    · have hn : a ∉ l.eraseDups := fun ha ↦ h (List.mem_eraseDups.mp ha)
      rw [eraseDups_concat_of_notMem h]
      exact List.nodup_append_comm.mp (List.nodup_cons.mpr ⟨hn, ih⟩)

theorem eraseDups_perm {as bs : List α} (h : as.Perm bs) : as.eraseDups.Perm bs.eraseDups := by
  rw [List.perm_ext_iff_of_nodup (nodup_eraseDups as) (nodup_eraseDups bs)]
  intro a
  rw [List.mem_eraseDups, List.mem_eraseDups, h.mem_iff]

theorem length_eraseDups_le {as bs : List α} (h : as ⊆ bs) :
    as.eraseDups.length ≤ bs.eraseDups.length := by
  apply (nodup_eraseDups as).length_le_of_subset
  intro a ha
  exact List.mem_eraseDups.mpr (h (List.mem_eraseDups.mp ha))

theorem eraseDups_of_nodup {l : List α} (h : l.Nodup) : l.eraseDups = l := by
  induction l using List.reverseRecOn with
  | nil => rfl
  | append_singleton l a ih =>
    have hh : a ∉ l ∧ l.Nodup := List.nodup_cons.mp (List.nodup_append_comm.mp h)
    rw [eraseDups_concat_of_notMem hh.1, ih hh.2]

theorem prefix_eraseDups_append (as bs : List α) : as.eraseDups <+: (as ++ bs).eraseDups := by
  rw [List.eraseDups_append]
  exact List.prefix_append _ _

theorem eraseDups_eraseDups_append (as bs : List α) :
    (as.eraseDups ++ bs).eraseDups = (as ++ bs).eraseDups := by
  have hsame : bs.removeAll as.eraseDups = bs.removeAll as := by
    apply List.filter_congr
    intro b _
    simp [List.mem_eraseDups]
  rw [List.eraseDups_append, List.eraseDups_append, eraseDups_of_nodup (nodup_eraseDups as), hsame]

theorem filter_eraseDups (p : α → Bool) (l : List α) :
    l.eraseDups.filter p = (l.filter p).eraseDups := by
  induction l using List.reverseRecOn with
  | nil => rfl
  | append_singleton l a ih =>
    rw [List.filter_append, List.filter_singleton]
    cases hp : p a with
    | false =>
      rw [Bool.cond_false, List.append_nil, ← ih]
      by_cases h : a ∈ l
      · rw [eraseDups_concat_of_mem h]
      · rw [eraseDups_concat_of_notMem h, List.filter_append, List.filter_singleton, hp,
          Bool.cond_false, List.append_nil]
    | true =>
      rw [Bool.cond_true]
      by_cases h : a ∈ l
      · rw [eraseDups_concat_of_mem h, ih,
          eraseDups_concat_of_mem (List.mem_filter.mpr ⟨h, hp⟩)]
      · have hf : a ∉ l.filter p := fun ha ↦ h (List.mem_filter.mp ha).1
        rw [eraseDups_concat_of_notMem h, eraseDups_concat_of_notMem hf, List.filter_append,
          List.filter_singleton, hp, Bool.cond_true, ih]

end

open Usage

theorem union_concat (known new : List Text) (t : Text) :
    union known (new ++ [t]) =
      if t ∈ union known new then union known new else union known new ++ [t] := by
  simp only [union, List.foldl_append, List.foldl_cons, List.foldl_nil, List.contains_iff_mem]

theorem union_eraseDups (known new : List Text) :
    union known.eraseDups new = (known ++ new).eraseDups := by
  induction new using List.reverseRecOn with
  | nil => rw [List.append_nil]; rfl
  | append_singleton new t ih =>
    rw [union_concat, ih, ← List.append_assoc]
    split
    · rename_i h
      rw [eraseDups_concat_of_mem (List.mem_eraseDups.mp h)]
    · rename_i h
      rw [eraseDups_concat_of_notMem fun ht ↦ h (List.mem_eraseDups.mpr ht)]

theorem mem_union {known new : List Text} {t : Text} :
    t ∈ union known new ↔ t ∈ known ∨ t ∈ new := by
  induction new using List.reverseRecOn with
  | nil => simp [union]
  | append_singleton new u ih =>
    rw [union_concat, List.mem_append, List.mem_singleton, ← or_assoc, ← ih]
    split
    · rename_i h
      refine ⟨.inl, fun ht ↦ ht.elim id fun he ↦ he ▸ h⟩
    · rw [List.mem_append, List.mem_singleton]

theorem union_of_subset {known new : List Text} (h : ∀ t ∈ new, t ∈ known) :
    union known new = known := by
  induction new using List.reverseRecOn with
  | nil => rfl
  | append_singleton new u ih =>
    have hnew : union known new = known := ih fun t ht ↦ h t (List.mem_append_left _ ht)
    have hu : u ∈ known := h u (List.mem_append_right _ (List.mem_singleton.mpr rfl))
    rw [union_concat, hnew, if_pos hu]

theorem union_union_self (known new : List Text) :
    union (union known new) new = union known new :=
  union_of_subset fun _ ht ↦ mem_union.mpr (.inr ht)

/-- The names that count as symbols: none is empty, and each is kept where it comes first. -/
def symbolsOf (names : List Text) : List Text := (names.filter (!·.isEmpty)).eraseDups

theorem addSymbol_symbolsOf (names : List Text) (name : Text) :
    addSymbol (symbolsOf names) name = symbolsOf (names ++ [name]) := by
  unfold addSymbol symbolsOf
  rw [List.filter_append, List.filter_singleton]
  cases he : name.isEmpty with
  | true => simp
  | false =>
    simp only [Bool.false_or, Bool.not_false, Bool.cond_true, List.contains_iff_mem,
      List.mem_eraseDups]
    split
    · rename_i h
      rw [eraseDups_concat_of_mem h]
    · rename_i h
      rw [eraseDups_concat_of_notMem h]

theorem addSymbols_symbolsOf (names new : List Text) :
    addSymbols (symbolsOf names) new = symbolsOf (names ++ new) := by
  induction new generalizing names with
  | nil => rw [List.append_nil]; rfl
  | cons name new ih =>
    have hstep : addSymbols (symbolsOf names) (name :: new) =
        addSymbols (addSymbol (symbolsOf names) name) new := rfl
    rw [hstep, addSymbol_symbolsOf, ih, List.append_assoc]
    rfl

theorem nil_notMem_symbolsOf (names : List Text) : [] ∉ symbolsOf names := by
  simp [symbolsOf, List.mem_eraseDups]

end PackageAudit.Distinct
