import PackageAudit.Proofs.CommandLine.Endings
import PackageAudit.Proofs.Project.Layout
import PackageAudit.Proofs.Results.RoundTrip
import PackageAudit.Proofs.Usage.Rejections

namespace PackageAudit.CommandLine

open Project

/-- What ends the writing of default settings with a message comes before its first change of a file. -/
theorem runInit_failsInPlace (project : Path) (force : Bool) :
    FailsInPlace (runInit project force) := by
  unfold runInit
  refine .bind (fun _ ↦ rfl) fun p ↦ ?_
  dsimp only
  refine .bind (fun _ ↦ rfl) fun _ ↦ ?_
  have hwrites : ∀ t m, NeverFails (makeDirectory p >>= fun _ ↦
      writeText (Project.configPath p) t >>= fun _ ↦ Session.print m) := fun _ _ ↦
    .bind (neverFails_change _) fun _ ↦ .bind (neverFails_change _) fun _ ↦ neverFails_print _
  split
  · exact .bind (keeps_print _) fun _ ↦ .bind (.bind (keeps_print _) fun _ ↦ keeps_throw _)
      fun _ ↦ (hwrites _ _).failsInPlace
  · exact (hwrites _ _).failsInPlace

section

variable {timing : Timing} {project : Path} {sources : Sources} {output : Option Path}
variable {workers : Option Int} {verbose quick : Bool} {state : State}

variable (timing project sources output workers verbose quick) in
/-- After the directory for the results, only settings and manifest can end an analysis with a
message, and they come before the first change of a file. -/
theorem exists_runAnalyze_eq : ∃ rest : Path → Session Unit, (∀ p, FailsInPlace (rest p)) ∧
    runAnalyze timing project sources output workers verbose quick = resolve project >>= fun p ↦
      if output.isNone then makeDirectory p >>= fun _ ↦ rest p else rest p := by
  unfold runAnalyze
  refine ⟨_, fun p ↦ ?_, rfl⟩
  refine .bind (keeps_plan _ _ _) fun _ ↦ .bind (keeps_settled _) fun _ ↦ ?_
  refine .bindIf (.bind (keeps_settled _) fun _ ↦ keeps_pure _) fun _ ↦ NeverFails.failsInPlace ?_
  refine .bind (fun _ ↦ nofun) fun _ ↦ .bind (fun _ ↦ nofun) fun _ ↦ .bind (neverFails_print _)
    fun _ ↦ .bind (neverFails_print _) fun _ ↦ .bind (neverFails_projectSources _ _ _) fun _ ↦
    .bind (neverFails_print _) fun _ ↦ ?_
  rw [Usage.analyzeShowing_eq]
  refine .bind (.bind (neverFails_forM (fun _ ↦ neverFails_pure _) _) fun _ ↦ neverFails_pure _)
    fun _ ↦ .bind (fun _ ↦ nofun) fun _ ↦ .bindIf (fun _ ↦ nofun) fun _ ↦ ?_
  refine .bind (neverFails_change _) fun _ ↦ .bind (neverFails_print _) fun _ ↦
    .bind (neverFails_printOverview _ _) fun _ ↦ .bind (neverFails_printSkipped _) fun _ ↦ ?_
  split
  · exact neverFails_printUsage _ _ _
  · exact neverFails_pure _

theorem change_eq_ok {f : Tree → Except Breakdown Tree} {state' : State}
    (h : Session.change f state = (.ok (), state')) : f state.tree = .ok state'.tree := by
  have hrun : Session.change f state = (Session.attempt (f state.tree) >>= fun t ↦
      modify fun s ↦ { s with tree := t }) state := rfl
  rw [hrun] at h
  rcases hf : f state.tree with b | t <;> rw [hf] at h
  · cases h
  · cases h
    rfl

theorem of_outcome_failed {s : Session Unit} {run : Ending × State} (hrun : s.outcome state = run)
    (hfailed : run.1 = .failed) : (s state).1 = .error .failed ∧ (s state).2 = run.2 := by
  subst hrun
  rw [Session.outcome] at hfailed ⊢
  rcases hs : s state with ⟨e | a, state'⟩ <;> rw [hs] at hfailed
  · exact ⟨congrArg Except.error hfailed, rfl⟩
  · cases hfailed

theorem tree_of_runAnalyze_failed
    (h : (runAnalyze timing project sources output workers verbose quick state).1 = .error .failed) :
    (runAnalyze timing project sources output workers verbose quick state).2.tree =
      if output.isSome || state.tree.isDirectory (state.tree.resultsDirectory project) then state.tree
      else { state.tree with
        directories := state.tree.directories ++ [state.tree.resultsDirectory project] } := by
  obtain ⟨rest, hrest, heq⟩ :=
    exists_runAnalyze_eq timing project sources output workers verbose quick
  have hresolve : ∀ f : Path → Session Unit,
      (resolve project >>= f) state = f (state.tree.resolved project) state := fun _ ↦ rfl
  rw [heq, hresolve] at h ⊢
  have htree := (hrest _).tree_of_optional (neverFails_change _) h
  cases output with
  | none =>
    obtain ⟨state', hmade, htree⟩ := htree
    rw [Option.isSome_none, Bool.false_or]
    exact htree.trans (Tree.addDirectory_eq_ok (change_eq_ok hmade))
  | some path => exact htree

/-- An analysis that ends with a message leaves the files as they were. It leaves the directories
so too just if the results go elsewhere or their directory was there. -/
theorem tree_of_analyze_failed {run : Ending × State}
    (hrun : (runCommand timing (.analyze project sources output workers verbose quick)).outcome
      state = run) (hfailed : run.1 = .failed) :
    (run.2.tree =
      if output.isSome || state.tree.isDirectory (state.tree.resultsDirectory project) then state.tree
      else { state.tree with
        directories := state.tree.directories ++ [state.tree.resultsDirectory project] }) ∧
    (run.2.tree = state.tree ↔
      output.isSome ∨ state.tree.isDirectory (state.tree.resultsDirectory project)) := by
  obtain ⟨hending, hstate⟩ := of_outcome_failed hrun hfailed
  have htree := (congrArg State.tree hstate).symm.trans (tree_of_runAnalyze_failed hending)
  refine ⟨htree, ?_⟩
  rw [htree, ← Bool.or_eq_true]
  split
  · rename_i hkept
    exact iff_of_true rfl hkept
  · rename_i hmade
    refine iff_of_false (fun heq ↦ ?_) hmade
    have hlength := congrArg (·.directories.length) heq
    simp at hlength

theorem tree_of_analyze_failed_elsewhere :
    ((runCommand ⟨⟨2024, 1, 1, 0, 0, 0, 0⟩, 0⟩ (.analyze ⟨[], []⟩ ⟨none, none, false⟩
      (some samplePath) none false true)).outcome emptyProject).2.tree = emptyProject.tree :=
  (tree_of_analyze_failed rfl (by decide +kernel)).2.mpr (.inl rfl)

theorem analyze_failed_makes_directory :
    let run := (runCommand ⟨⟨2024, 1, 1, 0, 0, 0, 0⟩, 0⟩ (.analyze ⟨[], []⟩ ⟨none, none, false⟩
      none none false true)).outcome emptyProject
    run.1 = .failed ∧ run.2.tree ≠ emptyProject.tree := by
  decide +kernel

end

end PackageAudit.CommandLine
