import PackageAudit.File.Tree
import PackageAudit.Project.Layout

namespace PackageAudit

theorem Path.up_notMem_straighten (p : Path) : Path.up ∉ p.straighten.parts := by
  have hfold : ∀ (parts l : List Text), Path.up ∉ l → Path.up ∉ parts.foldl
      (fun l part ↦ if part = Path.up then l.dropLast else l ++ [part]) l := by
    intro parts
    induction parts with
    | nil => exact fun l h ↦ h
    | cons part parts ih =>
      intro l h
      rw [List.foldl_cons]
      refine ih _ ?_
      split
      · exact fun hmem ↦ h (List.dropLast_subset l hmem)
      · rename_i hup
        rw [List.mem_append, List.mem_singleton, not_or]
        exact ⟨h, fun heq ↦ hup heq.symm⟩
  exact hfold p.parts [] List.not_mem_nil

variable {t : Tree} {p : Path}

theorem Tree.locate_of_up_notMem (ha : p.isAbsolute = true) (h : Path.up ∉ p.parts) :
    t.locate p = .ok p.parts := by
  have hfold : ∀ (parts : List Text) (l : Location), Path.up ∉ parts →
      parts.foldlM t.step l = .ok (l ++ parts) := by
    intro parts
    induction parts with
    | nil => intro l _; rw [List.append_nil]; rfl
    | cons part parts ih =>
      intro l h
      rw [List.mem_cons, not_or] at h
      have hstep : t.step l part = .ok (l ++ [part]) := by
        rw [Tree.step, if_neg fun heq ↦ h.1 heq.symm]
      rw [List.foldlM_cons, hstep]
      exact (ih _ h.2).trans (by rw [List.append_assoc, List.singleton_append])
  rw [Tree.locate, if_pos ha]
  exact hfold p.parts [] h

def Tree.resolved (t : Tree) (p : Path) : Path :=
  (Path.join ⟨[Path.slash], t.current⟩ p).straighten

theorem Tree.isAbsolute_resolved : (t.resolved p).isAbsolute = true := by
  have hjoin : (Path.join ⟨[Path.slash], t.current⟩ p).isAbsolute = true := by
    rw [Path.join]
    split
    · assumption
    · rfl
  exact hjoin

def Tree.resultsDirectory (t : Tree) (project : Path) : Location :=
  (t.resolved project).parts ++ [Text.ofString ".depusage"]

theorem Tree.locate_directory :
    t.locate (Project.directory (t.resolved p)) = .ok (t.resultsDirectory p) := by
  have hparts : (Project.directory (t.resolved p)).parts = t.resultsDirectory p := rfl
  have habsolute : (Project.directory (t.resolved p)).isAbsolute = true := Tree.isAbsolute_resolved
  have hup : Path.up ∉ (Project.directory (t.resolved p)).parts := by
    rw [hparts, Tree.resultsDirectory, List.mem_append, not_or]
    exact ⟨Path.up_notMem_straighten _, by decide⟩
  rw [Tree.locate_of_up_notMem habsolute hup, hparts]

theorem Tree.addDirectory_eq_ok {t' : Tree}
    (h : t.addDirectory (Project.directory (t.resolved p)) = .ok t') :
    t' = if t.isDirectory (t.resultsDirectory p) then t
      else { t with directories := t.directories ++ [t.resultsDirectory p] } := by
  rw [Tree.addDirectory, Tree.locate_directory] at h
  simp only [bind, Except.bind] at h
  split at h
  · rename_i hdirectory
    rw [if_pos hdirectory]
    exact (Except.ok.inj h).symm
  · rename_i hdirectory
    rw [if_neg hdirectory]
    split at h
    · cases h
    · split at h
      · cases h
      · exact (Except.ok.inj h).symm

end PackageAudit
