import Mathlib.Data.List.TakeWhile
import PackageAudit.Display.Emoji
import PackageAudit.Proofs.Text.CodePoint

namespace PackageAudit.Display.Emoji

section Pictures

theorem of_mem_pairs {P : Text → Prop} {ts : List Text} (h : ∀ t ∈ ts, P t) {e : Text × Text}
    (he : e ∈ pairs ts) : P e.2 := by
  induction ts using pairs.induct with
  | case1 name picture more ih =>
    rw [pairs, List.mem_cons] at he
    rcases he with rfl | he
    · exact h picture (by simp)
    · exact ih (fun t ht ↦ h t (by simp [ht])) he
  | case2 ts hshort =>
    rw [pairs] at he
    · cases he
    · exact hshort

theorem colon_not_mem_of_mem_pictures {e : Text × Text} (h : e ∈ pictures) : colon ∉ e.2 := by
  rw [pictures, List.mem_flatMap] at h
  obtain ⟨line, -, he⟩ := h
  exact of_mem_pairs Text.not_mem_of_mem_splitOn he

theorem colon_not_mem_named {name picture : Text} (h : named? name = some picture) :
    colon ∉ picture := by
  obtain ⟨e, he, rfl⟩ := Option.map_eq_some_iff.mp h
  exact colon_not_mem_of_mem_pictures (List.mem_of_find?_eq_some he)

theorem colon_not_mem_picture {name picture : Text} (h : picture? name = some picture) :
    colon ∉ picture := by
  rw [picture?] at h
  split at h
  · rename_i ending selector hfind
    obtain ⟨known, hknown, rfl⟩ := Option.map_eq_some_iff.mp h
    have hselector : ∀ v ∈ variants, colon ∉ v.2 := by decide
    rw [List.mem_append, not_or]
    exact ⟨colon_not_mem_named hknown, hselector _ (List.mem_of_find?_eq_some hfind)⟩
  · exact colon_not_mem_named h

end Pictures

section Replace

variable {t : Text}

theorem colon_not_mem_name {name rest : Text} (h : code? t = some (name, rest)) : colon ∉ name := by
  unfold code? at h
  split at h
  · split at h
    · cases h
      intro hmem
      exact absurd (List.mem_takeWhile_imp hmem) (by decide)
    · cases h
  · cases h

theorem replace_of_code {c : CodePoint} {name rest : Text}
    (h : code? (c :: t) = some (name, rest)) :
    replace (c :: t) = (picture? name).getD (colon :: (name ++ [colon])) ++ replace rest := by
  rw [replace]
  split
  · rename_i hcode
    rw [h] at hcode
    cases hcode
    rfl
  · rename_i hcode
    rw [h] at hcode
    cases hcode

theorem replace_of_no_code {c : CodePoint} (h : code? (c :: t) = none) :
    replace (c :: t) = c :: replace t := by
  rw [replace]
  split
  · rename_i hcode
    rw [h] at hcode
    cases hcode
  · rfl

theorem count_colon_replace (t : Text) : (replace t).count colon ≤ t.count colon ∧
    ((replace t).count colon = t.count colon → replace t = t) := by
  induction t using replace.induct with
  | case1 => simp [replace]
  | case2 c r name rest hcode ih =>
    rw [replace_of_code hcode, eq_of_code? hcode]
    have hname := List.count_eq_zero.mpr (colon_not_mem_name hcode)
    cases hpicture : picture? name with
    | none =>
      simp only [Option.getD_none, List.cons_append, List.append_assoc, List.nil_append,
        List.count_cons_self, List.count_append, hname, List.cons.injEq, true_and]
      refine ⟨by omega, fun hcount ↦ ?_⟩
      rw [ih.2 (by omega)]
    | some picture =>
      have hcolon := List.count_eq_zero.mpr (colon_not_mem_picture hpicture)
      simp only [Option.getD_some, List.count_append, List.count_cons_self, hname, hcolon]
      refine ⟨by omega, fun hcount ↦ ?_⟩
      omega
  | case3 c r hcode ih =>
    rw [replace_of_no_code hcode, List.count_cons, List.count_cons]
    refine ⟨by omega, fun hcount ↦ ?_⟩
    rw [ih.2 (by omega)]

theorem count_colon_flatMap_replace (ts : List Text) :
    (ts.flatMap replace).count colon ≤ ts.flatten.count colon ∧
      ((ts.flatMap replace).count colon = ts.flatten.count colon → ∀ t ∈ ts, replace t = t) := by
  induction ts with
  | nil => simp
  | cons t ts ih =>
    have hreplace := count_colon_replace t
    rw [List.flatMap_cons, List.flatten_cons, List.count_append, List.count_append,
      List.forall_mem_cons]
    exact ⟨by omega, fun hcount ↦ ⟨hreplace.2 (by omega), ih.2 (by omega)⟩⟩

theorem replace_of_colon_not_mem (h : colon ∉ t) : replace t = t := by
  have hcount := count_colon_replace t
  rw [List.count_eq_zero.mpr h] at hcount
  exact hcount.2 (by omega)

theorem replace_cons {c : CodePoint} (h : c ≠ colon) (t : Text) :
    replace (c :: t) = c :: replace t := by
  refine replace_of_no_code ?_
  unfold code?
  split
  · rename_i heq
    exact absurd (List.cons.inj heq).1 h
  · rfl

end Replace

end PackageAudit.Display.Emoji
