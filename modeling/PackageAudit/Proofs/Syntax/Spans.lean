import PackageAudit.Proofs.Syntax.Preorder

namespace PackageAudit.Syntax

/-- Every node covers a stretch of a source of the given length, within the stretch of its parent,
and no node starts before a node that is visited earlier. -/
structure Node.HasSpans (length : Nat) (root : Node) : Prop where
  start_le_stop : ∀ p ∈ places root, p.node.start ≤ p.node.stop
  stop_le_length : ∀ p ∈ places root, p.node.stop ≤ length
  nested : ∀ p ∈ places root, ∀ c ∈ p.node.children,
    p.node.start ≤ c.start ∧ c.stop ≤ p.node.stop
  ordered : (places root).Pairwise (·.node.start ≤ ·.node.start)

instance (length : Nat) : DecidablePred (Node.HasSpans length) := fun root ↦
  decidable_of_iff
    ((∀ p ∈ places root, p.node.start ≤ p.node.stop) ∧
      (∀ p ∈ places root, p.node.stop ≤ length) ∧
      (∀ p ∈ places root, ∀ c ∈ p.node.children, p.node.start ≤ c.start ∧ c.stop ≤ p.node.stop) ∧
      (places root).Pairwise (·.node.start ≤ ·.node.start))
    ⟨fun h ↦ ⟨h.1, h.2.1, h.2.2.1, h.2.2.2⟩,
      fun h ↦ ⟨h.start_le_stop, h.stop_le_length, h.nested, h.ordered⟩⟩

section Text

variable {α : Type} (source : List α) {n : Node}

theorem take_start_append_text (h : n.start ≤ n.stop) :
    source.take n.start ++ n.text source = source.take n.stop := by
  have hstop : n.stop = n.start + (n.stop - n.start) := by omega
  rw [Node.text, hstop, List.take_add, Nat.add_sub_cancel_left]

theorem split_at_text (h : n.start ≤ n.stop) :
    source.take n.start ++ n.text source ++ source.drop n.stop = source := by
  rw [take_start_append_text source h, List.take_append_drop]

end Text

/-- The first place is the second, or stands above it. -/
inductive Place.Encloses : Place → Place → Prop
  | refl (p : Place) : Encloses p p
  | parent {p q r : Place} : Encloses q p → q.parent? = some r → Encloses r p

theorem Place.parent?_eq_of_mem_children {p q : Place} (h : q ∈ p.children) :
    q.parent? = some p := by
  obtain ⟨i, -, habove⟩ := mem_children_iff.mp h
  rw [parent?, habove]

theorem mem_preorder_cases {p q : Place} (h : q ∈ preorder (fun _ ↦ false) p) :
    q = p ∨ ∃ r ∈ preorder (fun _ ↦ false) p, q ∈ r.children := by
  have hcases : ∀ q ∈ preorder (fun _ ↦ false) p, q ∈ preorder (fun _ ↦ false) p ∧
      (q = p ∨ ∃ r ∈ preorder (fun _ ↦ false) p, q ∈ r.children) := by
    apply forall_mem_preorder
    · exact ⟨self_mem_preorder p, .inl rfl⟩
    · rintro r ⟨hr, -⟩ c hc
      exact ⟨mem_preorder_of_mem_children hr hc, .inr ⟨r, hr, hc⟩⟩
  exact (hcases q h).2

theorem parent?_mem_places {root : Node} {p q : Place} (hp : p ∈ places root)
    (hq : p.parent? = some q) : q ∈ places root ∧ p.node ∈ q.node.children := by
  rw [places_eq_preorder] at hp ⊢
  rcases mem_preorder_cases hp with rfl | ⟨r, hr, hp⟩
  · cases hq
  · rw [Place.parent?_eq_of_mem_children hp] at hq
    cases hq
    obtain ⟨i, hi, -⟩ := Place.mem_children_iff.mp hp
    exact ⟨hr, List.mem_of_getElem? hi⟩

theorem Node.HasSpans.of_encloses {length : Nat} {root : Node} (h : root.HasSpans length)
    {p q : Place} (hp : p ∈ places root) (hq : q.Encloses p) :
    q ∈ places root ∧ q.node.start ≤ p.node.start ∧ p.node.stop ≤ q.node.stop := by
  induction hq with
  | refl => exact ⟨hp, Nat.le_refl _, Nat.le_refl _⟩
  | parent _ hparent ih =>
    obtain ⟨hq, hstart, hstop⟩ := ih hp
    obtain ⟨hr, hchild⟩ := parent?_mem_places hq hparent
    obtain ⟨hstart', hstop'⟩ := h.nested _ hr _ hchild
    exact ⟨hr, Nat.le_trans hstart' hstart, Nat.le_trans hstop hstop'⟩

end PackageAudit.Syntax
