import PackageAudit.Proofs.File.Encoding
import PackageAudit.Proofs.File.Tree

namespace PackageAudit

namespace Encoding

variable {cs : List Char}

theorem unifyLines_eq (h : '\r' ∉ cs) : unifyLines cs = cs := by
  induction cs with
  | nil => rfl
  | cons c cs ih =>
    rw [List.mem_cons, not_or] at h
    have hc : c ≠ '\r' := fun heq ↦ h.1 heq.symm
    rw [unifyLines.eq_4 c cs (fun r hr ↦ absurd hr hc) (fun hr ↦ absurd hr hc), ih h.2]

theorem notMem_unifyLines (cs : List Char) : '\r' ∉ unifyLines cs := by
  fun_induction unifyLines cs with
  | case1 => exact List.not_mem_nil
  | case2 r ih => exact fun h ↦ ih ((List.mem_cons.mp h).resolve_left (by decide))
  | case3 r hr ih => exact fun h ↦ ih ((List.mem_cons.mp h).resolve_left (by decide))
  | case4 c r hpair hc ih =>
    intro h
    rcases List.mem_cons.mp h with rfl | h
    · exact hc rfl
    · exact ih h

end Encoding

namespace Tree

variable {t t' : Tree} {l : Location} {bytes : List UInt8} {p : Path}

theorem any_set {q : Location → Bool} (h : t.files.any (fun f ↦ q f.1) = true) (m : Location)
    (bytes : List UInt8) : (t.set m bytes).files.any (fun f ↦ q f.1) = true := by
  rw [set]
  split
  · have hkeep : ∀ f : Location × List UInt8, (if f.1 = m then (m, bytes) else f).1 = f.1 := by
      intro f
      split
      · exact Eq.symm ‹_›
      · rfl
    rw [List.any_map]
    simpa only [Function.comp_def, hkeep] using h
  · rw [List.any_append, h, Bool.true_or]

theorem directories_set (t : Tree) (m : Location) (bytes : List UInt8) :
    (t.set m bytes).directories = t.directories := by
  rw [set]
  split <;> rfl

theorem current_set (t : Tree) (m : Location) (bytes : List UInt8) :
    (t.set m bytes).current = t.current := by
  rw [set]
  split <;> rfl

theorem isDirectory_set (h : t.isDirectory l = true) (m : Location) (bytes : List UInt8) :
    (t.set m bytes).isDirectory l = true := by
  rw [isDirectory, Bool.or_eq_true] at h ⊢
  rw [directories_set]
  exact h.imp_right fun hfile ↦ any_set (q := fun f ↦ l.isPrefixOf f && f ≠ l) hfile m bytes

theorem step_set {part : Text} {l' : Location} (h : t.step l part = .ok l') (m : Location)
    (bytes : List UInt8) : (t.set m bytes).step l part = .ok l' := by
  rw [step] at h ⊢
  split at h
  · split at h
    · rename_i hup hdirectory
      rw [if_pos hup, if_pos (isDirectory_set hdirectory m bytes), h]
    · cases h
  · rename_i hup
    rw [if_neg hup, h]

theorem locate_set (h : t.locate p = .ok l) (m : Location) (bytes : List UInt8) :
    (t.set m bytes).locate p = .ok l := by
  have hsteps : ∀ (parts : List Text) (start : Location), parts.foldlM t.step start = .ok l →
      parts.foldlM (t.set m bytes).step start = .ok l := by
    intro parts
    induction parts with
    | nil => exact fun start h ↦ h
    | cons part parts ih =>
      intro start h
      rw [List.foldlM_cons] at h ⊢
      cases hstep : t.step start part with
      | error b =>
        rw [hstep] at h
        cases h
      | ok next =>
        rw [hstep] at h
        rw [step_set hstep]
        exact ih next h
  rw [locate] at h ⊢
  rw [current_set]
  exact hsteps _ _ h

theorem content?_set (t : Tree) (l : Location) (bytes : List UInt8) :
    (t.set l bytes).content? l = some bytes := by
  rw [set]
  split
  · rename_i hfile
    have hfind : ∀ files : List (Location × List UInt8), files.any (·.1 = l) = true →
        ((files.map fun f ↦ if f.1 = l then (l, bytes) else f).find? (·.1 = l)).map (·.2) =
          some bytes := by
      intro files
      induction files with
      | nil => exact fun h ↦ nomatch h
      | cons f files ih =>
        intro h
        by_cases hf : f.1 = l
        · simp [hf]
        · simp only [List.any_cons, hf, decide_false, Bool.false_or] at h
          simpa [hf] using ih h
    exact hfind t.files hfile
  · rename_i hnone
    have hfind : t.files.find? (·.1 = l) = none := by
      rw [List.find?_eq_none]
      intro f hf
      rw [isFile, List.any_eq_true] at hnone
      exact fun heq ↦ hnone ⟨f, hf, heq⟩
    rw [content?, List.find?_append, hfind]
    simp

theorem read_of_write (h : t.write p bytes = .ok t') : t'.read p = .ok bytes := by
  rw [write] at h
  cases hl : t.locate p with
  | error b =>
    rw [hl] at h
    cases h
  | ok l =>
    rw [hl] at h
    have hset : t' = t.set l bytes := by
      simp only [bind, Except.bind] at h
      split at h
      · cases h
      · split at h
        · exact (Except.ok.inj h).symm
        · cases h
    rw [read, hset, locate_set hl]
    simp only [bind, Except.bind, content?_set]
    rfl

theorem readText_of_write {cs : List Char} (hline : '\r' ∉ cs)
    (h : t.write p (Encoding.encode cs) = .ok t') : t'.readText p = .ok cs := by
  rw [readText_of_read (read_of_write h), Encoding.decode?_eq_some_iff.mpr rfl]
  exact congrArg Except.ok (Encoding.unifyLines_eq hline)

end Tree

end PackageAudit
