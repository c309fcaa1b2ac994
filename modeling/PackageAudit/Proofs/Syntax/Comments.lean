import PackageAudit.Proofs.Lists
import PackageAudit.Proofs.Syntax.Preorder

namespace PackageAudit.Syntax

namespace Node

def isComment (n : Node) : Bool := n.kind = .comment

theorem kind_of_isComment {n : Node} (h : n.isComment = true) : n.kind = .comment :=
  of_decide_eq_true h

end Node

mutual

def Node.withoutComments : Node → Node
  | ⟨kind, named, field, start, stop, missing, faulty, children⟩ =>
    ⟨kind, named, field, start, stop, missing, faulty, withoutCommentsAll children⟩

def withoutCommentsAll : List Node → List Node
  | [] => []
  | n :: ns =>
    if n.isComment then withoutCommentsAll ns else n.withoutComments :: withoutCommentsAll ns

end

mutual

/-- Comments hold nothing, and no node holds them under a field. -/
def Node.hasPlainComments : Node → Bool
  | ⟨_, _, _, _, _, _, _, children⟩ => havePlainComments children

def havePlainComments : List Node → Bool
  | [] => true
  | n :: ns =>
    (!n.isComment || (n.field.isNone && n.children.isEmpty)) && n.hasPlainComments &&
      havePlainComments ns

end

namespace Node

theorem withoutCommentsAll_eq (ns : List Node) :
    withoutCommentsAll ns = (ns.filter (!·.isComment)).map withoutComments := by
  induction ns with
  | nil => rfl
  | cons n ns ih => cases h : n.isComment <;> simp [withoutCommentsAll, h, ih]

theorem withoutComments_children (n : Node) :
    n.withoutComments.children = (n.children.filter (!·.isComment)).map withoutComments := by
  cases n
  exact withoutCommentsAll_eq _

@[simp]
theorem withoutComments_kind (n : Node) : n.withoutComments.kind = n.kind := by cases n; rfl

@[simp]
theorem withoutComments_named (n : Node) : n.withoutComments.named = n.named := by cases n; rfl

@[simp]
theorem withoutComments_field (n : Node) : n.withoutComments.field = n.field := by cases n; rfl

@[simp]
theorem withoutComments_start (n : Node) : n.withoutComments.start = n.start := by cases n; rfl

@[simp]
theorem withoutComments_text {α : Type} (source : List α) (n : Node) :
    n.withoutComments.text source = n.text source := by cases n; rfl

theorem havePlainComments_iff {ns : List Node} :
    havePlainComments ns = true ↔
      ∀ c ∈ ns, (c.isComment = true → c.field = none ∧ c.children = []) ∧
        c.hasPlainComments = true := by
  induction ns with
  | nil => simp [havePlainComments]
  | cons n ns ih =>
    rw [havePlainComments, Bool.and_eq_true, Bool.and_eq_true, ih, List.forall_mem_cons]
    cases n.isComment <;> simp

theorem hasPlainComments_iff {n : Node} :
    n.hasPlainComments = true ↔
      ∀ c ∈ n.children, (c.isComment = true → c.field = none ∧ c.children = []) ∧
        c.hasPlainComments = true := by
  cases n
  exact havePlainComments_iff

theorem isComment_of_field {n c : Node} {f : Field} (h : n.hasPlainComments = true)
    (hc : c ∈ n.children) (hf : c.field = some f) : c.isComment = false := by
  cases hcomment : c.isComment with
  | false => rfl
  | true =>
    have hnone := ((hasPlainComments_iff.mp h c hc).1 hcomment).1
    rw [hf] at hnone
    cases hnone

theorem hasPlainComments_of_mem {n c : Node} (h : n.hasPlainComments = true)
    (hc : c ∈ n.children) : c.hasPlainComments = true :=
  (hasPlainComments_iff.mp h c hc).2

theorem hasPlainComments_of_child? {n c : Node} {f : Field} (h : n.hasPlainComments = true)
    (hc : n.child? f = some c) : c.hasPlainComments = true :=
  hasPlainComments_of_mem h (List.mem_of_find?_eq_some hc)

theorem hasPlainComments_of_mem_namedChildren {n c : Node} (h : n.hasPlainComments = true)
    (hc : c ∈ n.namedChildren) : c.hasPlainComments = true :=
  hasPlainComments_of_mem h (List.mem_of_mem_filter hc)

theorem child?_withoutComments {n : Node} (h : n.hasPlainComments = true) (f : Field) :
    n.withoutComments.child? f = (n.child? f).map withoutComments := by
  unfold child?
  rw [withoutComments_children, List.find?_map, Lists.find?_filter_of_imp]
  · simp only [Function.comp_def, withoutComments_field]
  · intro c hc hf
    simp [isComment_of_field h hc (by simpa using hf)]

theorem namedChildren_withoutComments (n : Node) :
    n.withoutComments.namedChildren =
      (n.namedChildren.filter (!·.isComment)).map withoutComments := by
  unfold namedChildren
  rw [withoutComments_children, List.filter_map, List.filter_filter, List.filter_filter]
  simp only [Function.comp_def, withoutComments_named, Bool.and_comm]

def firstKept? (n : Node) : Option Node := n.namedChildren.find? (!·.isComment)

theorem head?_withoutComments (n : Node) :
    n.withoutComments.namedChildren.head? = n.firstKept?.map withoutComments := by
  rw [namedChildren_withoutComments, List.head?_map, List.head?_filter]
  rfl

theorem firstKept?_eq_head? {n c : Node} (h : n.namedChildren.head? = some c)
    (hc : c.isComment = false) : n.firstKept? = some c := by
  obtain ⟨rest, hrest⟩ := List.head?_eq_some_iff.mp h
  rw [firstKept?, hrest]
  exact List.find?_cons_of_pos (by simp [hc])

theorem hasPlainComments_of_firstKept? {n c : Node} (h : n.hasPlainComments = true)
    (hc : n.firstKept? = some c) : c.hasPlainComments = true :=
  hasPlainComments_of_mem_namedChildren h (List.mem_of_find?_eq_some hc)

end Node

namespace Place

/-- The place that the node has among what is no comment. -/
def withoutComments (p : Place) : Place where
  node := p.node.withoutComments
  above := p.above.map fun (n, i) ↦
    (n.withoutComments, (n.children.take i).countP (!·.isComment))

/-- Each node above the place is the parent of the next one, down from a root. -/
inductive IsSound : Place → Prop
  | top {root : Node} : root.hasPlainComments = true → IsSound (.top root)
  | child {p : Place} {n : Node} {i : Nat} : IsSound p → p.node.children[i]? = some n →
      IsSound ⟨n, (p.node, i) :: p.above⟩

@[simp]
theorem withoutComments_node (p : Place) : p.withoutComments.node = p.node.withoutComments := rfl

theorem parent?_withoutComments (p : Place) :
    p.withoutComments.parent? = p.parent?.map withoutComments := by
  obtain ⟨n, above⟩ := p
  cases above <;> rfl

theorem IsSound.hasPlainComments {p : Place} (h : p.IsSound) : p.node.hasPlainComments = true := by
  induction h with
  | top h => exact h
  | child _ hn ih => exact Node.hasPlainComments_of_mem ih (List.mem_of_getElem? hn)

theorem IsSound.parent? {p above : Place} (h : p.IsSound) (ha : p.parent? = some above) :
    above.IsSound := by
  cases h with
  | top => cases ha
  | child h =>
    cases ha
    exact h

theorem IsSound.isFieldOfParent_withoutComments {p : Place} (h : p.IsSound)
    (hp : p.node.isComment = false) (f : Field) :
    p.withoutComments.isFieldOfParent f = p.isFieldOfParent f := by
  cases h with
  | top => rfl
  | @child p n i h hn =>
    have hfields : ∀ c ∈ p.node.children, decide (c.field = some f) = true →
        (!c.isComment) = true := fun c hc hf ↦ by
      simp [Node.isComment_of_field h.hasPlainComments hc (of_decide_eq_true hf)]
    have hiff := Lists.findIdx?_filter_iff hfields hn (by simpa using hp)
    simp only [isFieldOfParent, withoutComments, List.map_cons, Node.withoutComments_children,
      List.findIdx?_map, Function.comp_def, Node.withoutComments_field, hiff]

theorem IsSound.of_mem_children {p q : Place} (h : p.IsSound) (hq : q ∈ p.children) :
    q.IsSound := by
  obtain ⟨n, above⟩ := q
  obtain ⟨i, hn, habove⟩ := mem_children_iff.mp hq
  cases habove
  exact .child h hn

theorem children_withoutComments (p : Place) :
    p.withoutComments.children =
      (p.children.filter (!·.node.isComment)).map withoutComments := by
  simp only [children, withoutComments_node, Node.withoutComments_children, List.zipIdx_map,
    Lists.zipIdx_filter, List.filter_map, List.map_map]
  rfl

end Place

section Preorder

theorem isSound_of_mem_preorder {p q : Place} (h : p.IsSound)
    (hq : q ∈ preorder (fun _ ↦ false) p) : q.IsSound :=
  forall_mem_preorder h (fun _ hsound _ hc ↦ hsound.of_mem_children hc) q hq

theorem preorder_of_isComment {p c : Place} (h : p.IsSound) (hc : c ∈ p.children)
    (hcomment : c.node.isComment = true) : preorder (fun _ ↦ false) c = [c] := by
  obtain ⟨i, hn, -⟩ := Place.mem_children_iff.mp hc
  have hleaf := (Node.hasPlainComments_iff.mp h.hasPlainComments _
    (List.mem_of_getElem? hn)).1 hcomment
  rw [preorder_eq, Place.children, hleaf.2]
  rfl

/-- The places of the tree without comments are those that hold no comment, in the same order. -/
theorem preorder_withoutComments {p : Place} (h : p.IsSound) (hp : p.node.isComment = false) :
    preorder (fun _ ↦ false) p.withoutComments =
      ((preorder (fun _ ↦ false) p).filter (!·.node.isComment)).map Place.withoutComments := by
  induction p using preorder_induction with
  | place p ih =>
    have hchildren : ∀ c ∈ p.children,
        (if !c.node.isComment then preorder (fun _ ↦ false) c.withoutComments else []) =
          ((preorder (fun _ ↦ false) c).filter (!·.node.isComment)).map Place.withoutComments := by
      intro c hc
      cases hcomment : c.node.isComment with
      | true => rw [preorder_of_isComment h hc hcomment]; simp [hcomment]
      | false => exact ih c hc (h.of_mem_children hc) hcomment
    rw [preorder_eq, preorder_eq, if_neg Bool.false_ne_true, if_neg Bool.false_ne_true,
      List.filter_cons_of_pos (by simp [hp]), List.map_cons, Place.children_withoutComments,
      List.filter_flatMap, List.map_flatMap, List.flatMap_map, ← List.flatMap_congr hchildren,
      Lists.flatMap_filter]

end Preorder

end PackageAudit.Syntax
