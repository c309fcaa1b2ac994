import Mathlib.Data.List.Nodup
import PackageAudit.Proofs.Syntax.Preorder

namespace PackageAudit.Syntax

variable {skip : Place → Bool} {p q c : Place}

section Loop

/-- A run of the loop from a stack until nothing is left on it, with the places taken off. -/
inductive Drains (skip : Place → Bool) : List Place → List Place → Prop
  | nil : Drains skip [] []
  | cons {p : Place} {stack taken : List Place} :
      Drains skip (if skip p then stack else p.children ++ stack) taken →
        Drains skip (p :: stack) (p :: taken)

variable {front stack taken : List Place}

theorem Drains.append (h : Drains skip stack taken)
    (hfront : ∀ p ∈ front, ∀ {stack taken : List Place}, Drains skip stack taken →
      Drains skip (p :: stack) (preorder skip p ++ taken)) :
    Drains skip (front ++ stack) (front.flatMap (preorder skip) ++ taken) := by
  induction front with
  | nil => exact h
  | cons p front ih =>
    obtain ⟨hp, hfront⟩ := List.forall_mem_cons.mp hfront
    rw [List.cons_append, List.flatMap_cons, List.append_assoc]
    exact hp (ih hfront)

/-- The loop goes through all that stands below the place on top before it comes to the rest of the
stack. The induction is on the tree, for every rest. -/
theorem Drains.place (h : Drains skip stack taken) (p : Place) :
    Drains skip (p :: stack) (preorder skip p ++ taken) := by
  induction p using preorder_induction generalizing stack taken with
  | place p ih =>
    rw [preorder_eq, List.cons_append]
    apply Drains.cons
    cases skip p with
    | true => exact h
    | false => exact h.append ih

theorem drains_iff : Drains skip stack taken ↔ taken = stack.flatMap (preorder skip) := by
  constructor
  · intro h
    induction h with
    | nil => rfl
    | @cons p stack taken _ ih =>
      rw [ih, List.flatMap_cons, preorder_eq]
      cases skip p <;> simp
  · rintro rfl
    have hall : Drains skip (stack ++ []) (stack.flatMap (preorder skip) ++ []) :=
      Drains.nil.append fun p _ _ _ h ↦ h.place p
    simpa using hall

end Loop

section Places

theorem above_suffix_of_mem_preorder (h : q ∈ preorder skip p) : p.above <:+ q.above := by
  apply forall_mem_preorder (motive := fun q ↦ p.above <:+ q.above) ?_ ?_ q h
  · exact List.suffix_refl _
  · intro q hsuffix c hc
    obtain ⟨i, -, habove⟩ := Place.mem_children_iff.mp hc
    rw [habove]
    exact hsuffix.trans (List.suffix_cons _ _)

theorem Place.pairwise_above_children (p : Place) :
    p.children.Pairwise fun c d ↦ c.above ≠ d.above := by
  have hindices : (p.node.children.zipIdx.map (·.2)).Nodup := by
    rw [List.zipIdx_map_snd]
    exact List.nodup_range'
  rw [List.Nodup, List.pairwise_map] at hindices
  rw [children, List.pairwise_map]
  apply hindices.imp
  intro c d hne habove
  exact hne (Prod.mk.inj (List.cons.inj habove).1).2

theorem length_above_of_mem_children (h : c ∈ p.children) :
    c.above.length = p.above.length + 1 := by
  obtain ⟨i, -, habove⟩ := Place.mem_children_iff.mp h
  rw [habove, List.length_cons]

theorem disjoint_preorder (hlength : p.above.length = q.above.length) (hne : p.above ≠ q.above) :
    List.Disjoint (preorder skip p) (preorder skip q) := by
  intro r hp hq
  have hsuffix := List.suffix_of_suffix_length_le (above_suffix_of_mem_preorder hp)
    (above_suffix_of_mem_preorder hq) (Nat.le_of_eq hlength)
  exact hne (hsuffix.eq_of_length hlength)

/-- No place is taken twice: those below different children keep these apart by their indices. -/
theorem nodup_preorder (p : Place) : (preorder skip p).Nodup := by
  induction p using preorder_induction with
  | place p ih =>
    rw [preorder_eq]
    cases skip p with
    | true => exact List.nodup_singleton p
    | false =>
      rw [if_neg Bool.false_ne_true, List.nodup_cons, List.nodup_flatMap]
      refine ⟨?_, ih, ?_⟩
      · intro hp
        obtain ⟨c, hc, hp⟩ := List.mem_flatMap.mp hp
        have hle := (above_suffix_of_mem_preorder hp).length_le
        rw [length_above_of_mem_children hc] at hle
        omega
      · apply p.pairwise_above_children.imp_of_mem
        intro c d hc hd hne
        apply disjoint_preorder _ hne
        rw [length_above_of_mem_children hc, length_above_of_mem_children hd]

/-- The places of a tree: that of the root, and with a place those of its children. -/
inductive Place.LiesIn (root : Node) : Place → Prop
  | top : LiesIn root (.top root)
  | child {p q : Place} : LiesIn root p → q ∈ p.children → LiesIn root q

theorem mem_preorder_top_iff {root : Node} :
    p ∈ preorder (fun _ ↦ false) (.top root) ↔ p.LiesIn root := by
  constructor
  · exact forall_mem_preorder .top (fun _ hq _ hc ↦ hq.child hc) p
  · intro h
    induction h with
    | top => exact self_mem_preorder _
    | child _ hq ih => exact mem_preorder_of_mem_children ih hq

end Places

section Skipping

def placesAbove : List (Node × Nat) → List Place
  | [] => []
  | (n, _) :: above => ⟨n, above⟩ :: placesAbove above

def Place.ancestors (p : Place) : List Place := placesAbove p.above

theorem Place.ancestors_of_mem_children (h : c ∈ p.children) : c.ancestors = p :: p.ancestors := by
  obtain ⟨i, -, habove⟩ := mem_children_iff.mp h
  rw [ancestors, habove]
  rfl

theorem placesAbove_subset {above above' : List (Node × Nat)} (h : above <:+ above') :
    placesAbove above ⊆ placesAbove above' := by
  obtain ⟨front, rfl⟩ := h
  induction front with
  | nil => exact List.Subset.refl _
  | cons e front ih => exact List.subset_cons_of_subset _ ih

/-- Below a place without skipped ancestors, the recursion that skips takes what has none either. -/
theorem preorder_eq_filter (h : p.ancestors.any skip = false) :
    preorder skip p = (preorder (fun _ ↦ false) p).filter fun q ↦ !q.ancestors.any skip := by
  induction p using preorder_induction with
  | place p ih =>
    rw [preorder_eq, preorder_eq fun _ ↦ false, if_neg Bool.false_ne_true,
      List.filter_cons_of_pos (by rw [h]; rfl), List.filter_flatMap, List.cons_inj_right]
    cases hskip : skip p with
    | true =>
      rw [if_pos rfl, eq_comm, List.flatMap_eq_nil_iff]
      intro c hc
      rw [List.filter_eq_nil_iff]
      intro q hq
      have hparent : p ∈ c.ancestors := by
        rw [Place.ancestors_of_mem_children hc]
        exact List.mem_cons_self
      have hp : p ∈ q.ancestors := placesAbove_subset (above_suffix_of_mem_preorder hq) hparent
      simpa using ⟨p, hp, hskip⟩
    | false =>
      apply List.flatMap_congr
      intro c hc
      apply ih c hc
      rw [Place.ancestors_of_mem_children hc, List.any_cons, hskip, h]
      rfl

/-- The loop from the root ends, and the walk is all that it takes: of the recursion on the whole
tree the places without a skipped ancestor, none of them twice. -/
theorem walk_takes_unskipped (skip : Place → Bool) (root : Node) :
    (∀ taken, Drains skip [.top root] taken ↔ taken = walk skip root) ∧
      walk skip root =
        (preorder (fun _ ↦ false) (.top root)).filter (fun p ↦ !p.ancestors.any skip) ∧
      (walk skip root).Nodup ∧
      ∀ p, p ∈ walk skip root ↔ p.LiesIn root ∧ ∀ q ∈ p.ancestors, skip q = false := by
  have hfilter : preorder skip (.top root) =
      (preorder (fun _ ↦ false) (.top root)).filter fun p ↦ !p.ancestors.any skip :=
    preorder_eq_filter rfl
  rw [walk_eq_preorder]
  refine ⟨fun taken ↦ ?_, hfilter, nodup_preorder _, fun p ↦ ?_⟩
  · rw [drains_iff, List.flatMap_singleton]
  · rw [hfilter, List.mem_filter, mem_preorder_top_iff]
    simp

/-- A skipped place is taken itself, and what stands beside it is too. -/
example :
    let leaf (kind : Kind) : Node := .leaf kind true 0 0
    let call : Node := .ofChildren .callExpression [leaf .identifier]
    let root : Node := .ofChildren (.other "program") [call, leaf .comment]
    (walk (·.node.kind = .callExpression) root).map (·.node.kind) =
      [.other "program", .callExpression, .comment] := by decide

end Skipping

end PackageAudit.Syntax
