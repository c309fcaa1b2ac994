import PackageAudit.Proofs.Syntax.Faults
import PackageAudit.Script.Repair.Contest

namespace PackageAudit.Script.Repair

open Syntax

variable {j : Job} {c : Contest} {others : List Attempt} {a b : Attempt} {s : Stuck}

/-- The flags of all faults that the attempt has marked are exact. -/
def Attempt.IsFlagged (a : Attempt) : Prop := ∀ n ∈ a.faults, n.FlagsFaults

structure Contest.IsFlagged (c : Contest) : Prop where
  attempts : ∀ a ∈ c.attempts, a.IsFlagged
  finished : ∀ a ∈ c.finished, a.IsFlagged

/-- What a step gives: the contest, the attempt if it goes on, and those that spring from it. -/
structure AreFlagged (step : Contest × Option Attempt × List Attempt) : Prop where
  contest : step.1.IsFlagged
  self : ∀ a ∈ step.2.1, a.IsFlagged
  back : ∀ a ∈ step.2.2, a.IsFlagged

theorem AreFlagged.ends {back : List Attempt} (hc : c.IsFlagged)
    (hback : ∀ b ∈ back, b.IsFlagged) : AreFlagged (c, none, back) :=
  ⟨hc, fun _ hb ↦ (nomatch hb), hback⟩

theorem AreFlagged.goesOn {back : List Attempt} (hc : c.IsFlagged) (ha : a.IsFlagged)
    (hback : ∀ b ∈ back, b.IsFlagged) : AreFlagged (c, some a, back) :=
  ⟨hc, fun _ hb ↦ Option.some.inj hb ▸ ha, hback⟩

section Remedies

theorem isFlagged_behind (h : a.IsFlagged) (s : Stuck) (stop : ℕ) (r : Retreat) (b : Attempt) :
    (takeBack.behind j a s stop r b).IsFlagged := by
  have hfault := Node.flagsFaults_leaf .error true (a.draft.origin r.start) (a.draft.origin stop)
  have hfilter (place m : ℕ) : ∀ n ∈ (a.faults.filter (·.start < place)).filter (·.start < m),
      n.FlagsFaults := fun n hn ↦ h n (List.mem_of_mem_filter (List.mem_of_mem_filter hn))
  unfold takeBack.behind
  dsimp only
  split
  · exact List.forall_mem_cons.mpr ⟨hfault.congr rfl rfl rfl, hfilter _ _⟩
  · exact List.forall_mem_cons.mpr ⟨hfault, fun n hn ↦ h n (List.mem_of_mem_filter hn)⟩

theorem isFlagged_of_mem_search (h : a.IsFlagged) {stop : ℕ} {rs : List Retreat}
    {refused : List ℕ} : ∀ b ∈ (takeBack.search j c others a s stop rs refused).1, b.IsFlagged := by
  induction rs generalizing refused with
  | nil => exact fun _ hb ↦ nomatch hb
  | cons r rs ih =>
    unfold takeBack.search
    dsimp only
    split_ifs
    · exact ih
    · exact fun _ hb ↦ nomatch hb
    · exact ih
    · intro b hb
      cases hb
      exact isFlagged_behind h s stop r _
    · exact ih

theorem isFlagged_of_mem_takeBack (h : a.IsFlagged) :
    ∀ b ∈ (takeBack j c others a s).1, b.IsFlagged := by
  unfold takeBack
  exact isFlagged_of_mem_search h

theorem isFlagged_surrender (j : Job) (a : Attempt) (s : Stuck) :
    (surrender j a s).IsFlagged :=
  List.forall_mem_singleton.mpr (Node.flagsFaults_leaf _ _ _ _)

theorem Contest.IsFlagged.finish (hc : c.IsFlagged) (ha : a.IsFlagged) :
    (c.finish a).IsFlagged := by
  unfold Contest.finish
  have hlast : ∀ b ∈ some a, b.IsFlagged := fun b hb ↦ Option.some.inj hb ▸ ha
  split
  · split_ifs
    · exact hc
    · exact ⟨hc.attempts, hlast⟩
  · exact ⟨hc.attempts, hlast⟩

theorem areFlagged_recover (hc : c.IsFlagged) (ha : a.IsFlagged) (s : Stuck) :
    AreFlagged (recover j c others a s) := by
  have hback : ∀ b ∈ (if (j.lexeme a.next).known then takeBack j c others a s
      else (none, [])).1.toList, b.IsFlagged := by
    intro b hb
    split at hb
    · exact isFlagged_of_mem_takeBack ha b (Option.mem_toList.mp hb)
    · cases hb
  rcases htaken : (if (j.lexeme a.next).known then takeBack j c others a s else (none, []))
    with ⟨back, refused⟩
  rw [htaken] at hback
  unfold recover
  simp only [htaken]
  split_ifs
  · exact .ends (hc.finish (isFlagged_surrender j a s)) hback
  · exact .ends hc hback
  · exact .goesOn hc ha hback

theorem isFlagged_of_mem_supplied (ha : a.IsFlagged) : ∀ b ∈ supplied j a, b.IsFlagged := by
  intro b hb
  unfold supplied at hb
  obtain ⟨⟨text, kind⟩, -, hb⟩ := List.exists_of_findSome?_eq_some hb
  dsimp only at hb
  split_ifs at hb
  cases hb
  refine List.forall_mem_cons.mpr ⟨?_, ha⟩
  exact Node.flagsFaults_of_children_eq_nil rfl (Bool.or_true _).symm

end Remedies

section Contests

variable {as : List Attempt}

theorem insert_subset (j : Job) (a : Attempt) (as : List Attempt) : insert j a as ⊆ a :: as := by
  induction as generalizing a with
  | nil => exact List.Subset.refl [a]
  | cons b bs ih =>
    have hskip : a :: bs ⊆ a :: b :: bs := List.cons_subset_cons a (List.subset_cons_self b bs)
    unfold insert
    dsimp only
    split_ifs
    · exact List.subset_cons_self a (b :: bs)
    · exact List.Subset.trans (ih a) hskip
    · exact List.cons_subset_cons a (ih b)
    · refine List.cons_subset.mpr ⟨List.mem_cons_of_mem a List.mem_cons_self, ?_⟩
      exact List.Subset.trans (ih a) hskip

theorem isFlagged_of_mem_foldl_insert (j : Job) {kept : List Attempt} (has : ∀ a ∈ as, a.IsFlagged)
    (hkept : ∀ a ∈ kept, a.IsFlagged) :
    ∀ a ∈ as.foldl (fun kept a ↦ insert j a kept) kept, a.IsFlagged := by
  induction as generalizing kept with
  | nil => exact hkept
  | cons a as ih =>
    obtain ⟨ha, has⟩ := List.forall_mem_cons.mp has
    refine ih has fun b hb ↦ ?_
    exact List.forall_mem_cons.mpr ⟨ha, hkept⟩ b (insert_subset j a kept hb)

namespace Contest.IsFlagged

theorem begin (hc : c.IsFlagged) (hothers : ∀ b ∈ others, b.IsFlagged) (ha : a.IsFlagged) :
    (c.begin j others a).IsFlagged := by
  have hmore : ∀ b ∈ (supplied j a).toList, b.IsFlagged :=
    fun b hb ↦ isFlagged_of_mem_supplied ha b (Option.mem_toList.mp hb)
  let s : Stuck := ⟨a.reach.piles, none, 0, {}⟩
  have hstuck : Attempt.IsFlagged { a with mode := .stuck s, progress := 0 } := ha
  obtain ⟨hleft, hself, hback⟩ : AreFlagged (recover j c (others ++ (supplied j a).toList)
      { a with mode := .stuck s, progress := 0 } s) := areFlagged_recover hc hstuck s
  refine ⟨?_, hleft.finished⟩
  change ∀ b ∈ Option.toList _ ++ others ++ _ ++ _, b.IsFlagged
  simp only [List.forall_mem_append]
  exact ⟨⟨⟨fun b hb ↦ hself b (Option.mem_toList.mp hb), hothers⟩, hmore⟩, hback⟩

theorem settle (hc : c.IsFlagged) : (c.settle j).IsFlagged := by
  have hsettled := isFlagged_of_mem_foldl_insert j hc.attempts (List.forall_mem_nil _)
  unfold Contest.settle
  split
  · exact ⟨List.forall_mem_nil _, hc.finished⟩
  · rename_i a rest hfirst
    have hall : ∀ b ∈ a :: rest, b.IsFlagged :=
      fun b hb ↦ hsettled b (List.mem_of_mem_take (hfirst ▸ hb))
    obtain ⟨ha, hrest⟩ := List.forall_mem_cons.mp hall
    have hothers : ∀ b ∈ rest.filter (!·.isPaused), b.IsFlagged :=
      fun b hb ↦ hrest b (List.mem_of_mem_filter hb)
    dsimp only
    split
    · exact hc.begin hothers ha
    · exact ⟨List.forall_mem_cons.mpr ⟨ha, hothers⟩, hc.finished⟩

theorem advance {step : Contest × Option Attempt × List Attempt} (hc : c.IsFlagged)
    (ha : a.IsFlagged) (hstep : c.advance j others a = step) : AreFlagged step := by
  subst hstep
  have hnil : ∀ b ∈ ([] : List Attempt), b.IsFlagged := List.forall_mem_nil _
  unfold Contest.advance
  split
  · exact .goesOn hc ha hnil
  · exact areFlagged_recover hc ha _
  · split_ifs
    · exact .goesOn hc ha hnil
    · exact .ends (hc.finish ha) hnil
    · exact .goesOn hc ha hnil

theorem round {fuel furthest : ℕ} {done todo : List Attempt} (hc : c.IsFlagged)
    (hdone : ∀ a ∈ done, a.IsFlagged) (htodo : ∀ a ∈ todo, a.IsFlagged) :
    (Contest.round j fuel furthest c done todo).2.IsFlagged := by
  fun_induction Contest.round j fuel furthest c done todo with
  | case1 => exact ⟨List.forall_mem_append.mpr ⟨hdone, htodo⟩, hc.finished⟩
  | case2 => exact ⟨hdone, hc.finished⟩
  | case3 _ _ _ _ _ _ _ ih =>
    obtain ⟨ha, htodo⟩ := List.forall_mem_cons.mp htodo
    exact ih hc (List.forall_mem_append.mpr ⟨hdone, List.forall_mem_singleton.mpr ha⟩) htodo
  | case4 _ _ _ _ _ _ _ _ _ hstep ih =>
    obtain ⟨ha, htodo⟩ := List.forall_mem_cons.mp htodo
    have hmade := hc.advance ha hstep
    exact ih hmade.contest hdone (List.forall_mem_append.mpr ⟨htodo, hmade.back⟩)
  | case5 _ _ _ _ _ _ _ _ _ _ hstep _ ih =>
    obtain ⟨ha, htodo⟩ := List.forall_mem_cons.mp htodo
    have hmade := hc.advance ha hstep
    have hb := List.forall_mem_singleton.mpr (hmade.self _ rfl)
    exact ih hmade.contest (List.forall_mem_append.mpr ⟨hdone, hb⟩)
      (List.forall_mem_append.mpr ⟨htodo, hmade.back⟩)
  | case6 _ _ _ _ _ _ _ _ _ _ hstep _ ih =>
    obtain ⟨ha, htodo⟩ := List.forall_mem_cons.mp htodo
    have hmade := hc.advance ha hstep
    exact ih hmade.contest hdone (List.forall_mem_append.mpr
      ⟨List.forall_mem_cons.mpr ⟨hmade.self _ rfl, htodo⟩, hmade.back⟩)

end Contest.IsFlagged

end Contests

end PackageAudit.Script.Repair
