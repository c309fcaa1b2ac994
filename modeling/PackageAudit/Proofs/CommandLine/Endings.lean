import PackageAudit.CommandLine.Run
import PackageAudit.Proofs.Project.Settings

namespace PackageAudit.CommandLine

open Project

variable {α β : Type}

/-- The session changes no file. -/
def Keeps (s : Session α) : Prop := ∀ state, (s state).2.tree = state.tree

def NeverFails (s : Session α) : Prop := ∀ state, (s state).1 ≠ .error .failed

/-- A session that ends with a message has changed no file. -/
def FailsInPlace (s : Session α) : Prop :=
  ∀ state, (s state).1 = .error .failed → (s state).2.tree = state.tree

theorem bind_apply (s : Session α) (f : α → Session β) (state : State) :
    (s >>= f) state = match s state with
      | (.ok a, state) => f a state
      | (.error e, state) => (.error e, state) := by
  have hrun : (s >>= f) state = (match s state with
      | (r, state) => ExceptT.bindCont f r state) := rfl
  rw [hrun]
  rcases s state with ⟨r | r, state⟩ <;> rfl

variable {s : Session α} {f : α → Session β}

theorem Keeps.bind (hs : Keeps s) (hf : ∀ a, Keeps (f a)) : Keeps (s >>= f) := by
  intro state
  have h := hs state
  rw [bind_apply]
  rcases hrun : s state with ⟨e | a, state'⟩ <;> rw [hrun] at h
  · exact h
  · exact (hf a state').trans h

theorem NeverFails.bind (hs : NeverFails s) (hf : ∀ a, NeverFails (f a)) : NeverFails (s >>= f) := by
  intro state
  have h := hs state
  rw [bind_apply]
  rcases hrun : s state with ⟨e | a, state'⟩ <;> rw [hrun] at h
  · exact fun heq ↦ h (congrArg Except.error (Except.error.inj heq))
  · exact hf a state'

theorem FailsInPlace.bind (hs : Keeps s) (hf : ∀ a, FailsInPlace (f a)) : FailsInPlace (s >>= f) := by
  intro state
  have h := hs state
  rw [bind_apply]
  rcases hrun : s state with ⟨e | a, state'⟩ <;> rw [hrun] at h
  · exact fun _ ↦ h
  · exact fun hfailed ↦ (hf a state' hfailed).trans h

theorem NeverFails.failsInPlace (h : NeverFails s) : FailsInPlace s :=
  fun state hfailed ↦ absurd hfailed (h state)

theorem keeps_pure (a : α) : Keeps (pure a : Session α) := fun _ ↦ rfl

theorem neverFails_pure (a : α) : NeverFails (pure a : Session α) := fun _ ↦ nofun

theorem neverFails_forM {f : α → Session Unit} (hf : ∀ a, NeverFails (f a)) (l : List α) :
    NeverFails (forM l f) := by
  induction l with
  | nil => exact neverFails_pure _
  | cons a l ih =>
    rw [List.forM_cons]
    exact .bind (hf a) fun _ ↦ ih

theorem keeps_throw (e : Ending) : Keeps (throw e : Session α) := fun _ ↦ rfl

theorem neverFails_broken (b : Breakdown) : NeverFails (throw (.broken b) : Session α) :=
  fun _ ↦ nofun

theorem keeps_attempt (x : Except Breakdown α) : Keeps (Session.attempt x) := by
  cases x with
  | error b => exact keeps_throw _
  | ok a => exact keeps_pure a

theorem neverFails_attempt (x : Except Breakdown α) : NeverFails (Session.attempt x) := by
  cases x with
  | error b => exact neverFails_broken b
  | ok a => exact neverFails_pure a

theorem keeps_print (t : Text) : Keeps (Session.print t) :=
  .bind (fun _ ↦ rfl) fun _ ↦ .bind (keeps_attempt _) fun _ _ ↦ rfl

theorem neverFails_print (t : Text) : NeverFails (Session.print t) :=
  .bind (fun _ ↦ nofun) fun _ ↦ .bind (neverFails_attempt _) fun _ _ ↦ nofun

theorem keeps_failWith (t : Text) : Keeps (failWith t : Session α) :=
  .bind (keeps_print _) fun _ ↦ keeps_throw _

theorem keeps_settled (x : Except Settings.Error α) : Keeps (settled x) := by
  rcases x with e | a
  · cases e with
    | broken b => exact keeps_throw _
    | _ => exact keeps_failWith _
  · exact keeps_pure a

theorem keeps_dependencies (manifest : Path) : Keeps (dependencies manifest) := by
  refine .bind (fun _ ↦ rfl) fun t ↦ ?_
  rcases Manifest.load t manifest with e | ds
  · cases e with
    | broken b => exact keeps_throw _
    | _ => exact keeps_failWith _
  · exact keeps_pure ds

theorem keeps_plan (project manifest : Path) (sources : Sources) :
    Keeps (plan project manifest sources) :=
  .bind (fun _ ↦ rfl) fun _ ↦ .bind (keeps_settled _) fun _ ↦ .bind (keeps_dependencies _) fun _ ↦
    .bind (keeps_settled _) fun _ ↦ keeps_pure _

theorem neverFails_settled {x : Except Settings.Error α}
    (h : ∀ e, x = .error e → e.isBroken = true) : NeverFails (settled x) := by
  rcases x with e | a
  · cases e with
    | broken b => exact neverFails_broken b
    | _ => exact nomatch h _ rfl
  · exact neverFails_pure a

theorem neverFails_projectSources (project : Path) (settings : Json.Value) (includeIgnored : Bool) :
    NeverFails (projectSources project settings includeIgnored) :=
  .bind (neverFails_settled fun _ ↦ Settings.isBroken_of_analysis) fun _ ↦
    .bind (neverFails_settled fun _ ↦ Settings.isBroken_of_analysis) fun _ ↦
      .bind (fun _ ↦ nofun) fun _ ↦ .bind (neverFails_attempt _) fun _ ↦ neverFails_pure _

theorem neverFails_printGrid (g : Display.Grid) : NeverFails (Session.printGrid g) :=
  .bind (fun _ ↦ nofun) fun _ _ ↦ nofun

theorem neverFails_printOutline (o : Display.Outline Display.Label) :
    NeverFails (Session.printOutline o) :=
  .bind (fun _ ↦ nofun) fun _ ↦ .bind (fun _ ↦ nofun) fun _ ↦ .bind (neverFails_attempt _) fun _ ↦
    .bind (fun _ ↦ nofun) fun _ _ ↦ nofun

theorem neverFails_change (f : Tree → Except Breakdown Tree) : NeverFails (Session.change f) :=
  .bind (fun _ ↦ nofun) fun _ ↦ .bind (neverFails_attempt _) fun _ _ ↦ nofun

theorem neverFails_printOverview (least : Risk.Level) (results : Json.Value) :
    NeverFails (printOverview least results) :=
  .bind (neverFails_attempt _) fun _ ↦ .bind (neverFails_attempt _) fun _ ↦
    .bind (fun _ ↦ nofun) fun _ ↦ .bind (neverFails_attempt _) fun _ ↦
    .bind (neverFails_printGrid _) fun _ ↦ .bind (fun _ ↦ nofun) fun _ ↦
    .bind (neverFails_attempt _) fun _ _ ↦ nofun

theorem neverFails_printSkipped (report : Json.Value) : NeverFails (printSkipped report) := by
  refine .bind (neverFails_attempt _) fun o ↦ ?_
  cases o with
  | none => exact neverFails_pure _
  | some o => exact neverFails_printOutline o

theorem neverFails_printUsage (least : Risk.Level) (examples : Int) (report : Json.Value) :
    NeverFails (printUsage least examples report) :=
  .bind (neverFails_attempt _) fun _ ↦ neverFails_printOutline _

theorem FailsInPlace.bindIf {c : Prop} [Decidable c] {s : Session Unit} {f : Unit → Session α}
    (hs : Keeps s) (hf : ∀ u, FailsInPlace (f u)) : FailsInPlace (if c then s >>= f else f ()) := by
  split
  · exact .bind hs hf
  · exact hf ()

theorem NeverFails.bindIf {c : Prop} [Decidable c] {s : Session Unit} {f : Unit → Session α}
    (hs : NeverFails s) (hf : ∀ u, NeverFails (f u)) : NeverFails (if c then s >>= f else f ()) := by
  split
  · exact .bind hs hf
  · exact hf ()

theorem FailsInPlace.tree_of_optional {c : Prop} [Decidable c] {first : Session Unit}
    {rest : Session α} (hfirst : NeverFails first) (hrest : FailsInPlace rest) {state : State}
    (h : ((if c then first >>= fun _ ↦ rest else rest) state).1 = .error .failed) :
    if c then ∃ state', first state = (.ok (), state') ∧
      ((if c then first >>= fun _ ↦ rest else rest) state).2.tree = state'.tree
    else ((if c then first >>= fun _ ↦ rest else rest) state).2.tree = state.tree := by
  split at h <;> rename_i hc
  · simp only [if_pos hc]
    have hquiet := hfirst state
    rw [bind_apply] at h ⊢
    rcases hrun : first state with ⟨e | a, state'⟩
    · rw [hrun] at h hquiet
      exact absurd (congrArg Except.error (Except.error.inj h)) hquiet
    · rw [hrun] at h
      exact ⟨state', rfl, hrest state' h⟩
  · simp only [if_neg hc]
    exact hrest state h

end PackageAudit.CommandLine
