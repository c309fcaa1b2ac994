import Mathlib.Data.List.Basic
import PackageAudit.Syntax.Walk

namespace PackageAudit.Syntax

variable (skip : Place → Bool)

mutual

/-- The places at and below a node, which stands below the nodes `above`. -/
def preorderAt (above : List (Node × Nat)) : Node → List Place
  | ⟨kind, named, field, start, stop, missing, faulty, children⟩ =>
    let n : Node := ⟨kind, named, field, start, stop, missing, faulty, children⟩
    ⟨n, above⟩ :: if skip ⟨n, above⟩ then [] else preorderBelow n above 0 children

/-- The places at and below the children of a node from the index `i` on. -/
def preorderBelow (parent : Node) (above : List (Node × Nat)) (i : Nat) : List Node → List Place
  | [] => []
  | n :: ns => preorderAt ((parent, i) :: above) n ++ preorderBelow parent above (i + 1) ns

end

def preorder (p : Place) : List Place := preorderAt skip p.above p.node

theorem preorderBelow_eq (parent : Node) (above : List (Node × Nat)) (ns : List Node) (i : Nat) :
    preorderBelow skip parent above i ns =
      ((ns.zipIdx i).map fun (n, j) ↦ (⟨n, (parent, j) :: above⟩ : Place)).flatMap
        (preorder skip) := by
  induction ns generalizing i with
  | nil => rfl
  | cons n ns ih =>
    rw [preorderBelow, ih, List.zipIdx_cons, List.map_cons, List.flatMap_cons]
    rfl

theorem preorder_eq (p : Place) :
    preorder skip p = p :: if skip p then [] else p.children.flatMap (preorder skip) := by
  obtain ⟨⟨kind, named, field, start, stop, missing, faulty, children⟩, above⟩ := p
  rw [preorder, preorderAt, preorderBelow_eq]
  rfl

theorem walkFrom_eq (steps : Nat) (stack : List Place) :
    walkFrom skip steps stack = (stack.flatMap (preorder skip)).take steps := by
  induction steps generalizing stack with
  | zero => simp [walkFrom]
  | succ steps ih =>
    cases stack with
    | nil => simp [walkFrom]
    | cons p stack =>
      rw [walkFrom, ih, List.flatMap_cons, preorder_eq]
      cases skip p with
      | true => simp
      | false => simp [List.flatMap_append]

mutual

theorem length_preorderAt (above : List (Node × Nat)) :
    (n : Node) → (preorderAt skip above n).length ≤ n.size
  | ⟨kind, named, field, start, stop, missing, faulty, children⟩ => by
    have h := length_preorderBelow
      ⟨kind, named, field, start, stop, missing, faulty, children⟩ above 0 children
    rw [preorderAt, Node.size, List.length_cons]
    split
    · simp
    · omega

theorem length_preorderBelow (parent : Node) (above : List (Node × Nat)) (i : Nat) :
    (ns : List Node) → (preorderBelow skip parent above i ns).length ≤ sizeOfAll ns
  | [] => by simp [preorderBelow]
  | n :: ns => by
    have hn := length_preorderAt ((parent, i) :: above) n
    have hns := length_preorderBelow parent above (i + 1) ns
    rw [preorderBelow, sizeOfAll, List.length_append]
    omega

end

/-- The walk ends within as many steps as the tree has nodes. -/
theorem walk_eq_preorder (root : Node) : walk skip root = preorder skip (.top root) := by
  rw [walk, walkFrom_eq, List.flatMap_singleton]
  exact List.take_of_length_le (length_preorderAt skip [] root)

theorem places_eq_preorder (root : Node) : places root = preorder (fun _ ↦ false) (.top root) :=
  walk_eq_preorder _ root

theorem Node.inductionOn {motive : Node → Prop}
    (node : ∀ n, (∀ c ∈ n.children, motive c) → motive n) (n : Node) : motive n :=
  node n fun c hc ↦
    have hlt : sizeOf c < sizeOf n := by
      have h := List.sizeOf_lt_of_mem hc
      cases n
      rw [Node.mk.sizeOf_spec]
      dsimp only at h
      omega
    Node.inductionOn node c
termination_by sizeOf n

theorem Place.mem_children_iff {p q : Place} :
    q ∈ p.children ↔ ∃ i, p.node.children[i]? = some q.node ∧ q.above = (p.node, i) :: p.above := by
  obtain ⟨n, above⟩ := q
  simp only [children, List.mem_map, Prod.exists, List.mk_mem_zipIdx_iff_getElem?, Place.mk.injEq]
  constructor
  · rintro ⟨n, i, hn, rfl, rfl⟩
    exact ⟨i, hn, rfl⟩
  · rintro ⟨i, hn, rfl⟩
    exact ⟨n, i, hn, rfl, rfl⟩

theorem preorder_induction {motive : Place → Prop}
    (place : ∀ p : Place, (∀ q ∈ p.children, motive q) → motive p) (p : Place) : motive p := by
  obtain ⟨n, above⟩ := p
  induction n using Node.inductionOn generalizing above with
  | node n ih =>
    apply place
    intro q hq
    obtain ⟨m, aboveM⟩ := q
    obtain ⟨i, hm, -⟩ := Place.mem_children_iff.mp hq
    exact ih m (List.mem_of_getElem? hm) aboveM

section Members

variable {skip : Place → Bool} {p q c : Place}

theorem mem_preorder_iff :
    q ∈ preorder skip p ↔ q = p ∨ skip p = false ∧ ∃ c ∈ p.children, q ∈ preorder skip c := by
  rw [preorder_eq, List.mem_cons]
  cases skip p <;> simp

theorem self_mem_preorder (p : Place) : p ∈ preorder skip p := mem_preorder_iff.mpr (.inl rfl)

/-- What passes from a place to its children holds of all that stands below. -/
theorem forall_mem_preorder {motive : Place → Prop} (self : motive p)
    (child : ∀ q, motive q → ∀ c ∈ q.children, motive c) : ∀ q ∈ preorder skip p, motive q := by
  intro q hq
  induction p using preorder_induction with
  | place p ih =>
    rcases mem_preorder_iff.mp hq with rfl | ⟨-, c, hc, hq⟩
    · exact self
    · exact ih c hc (child p self c hc) hq

theorem mem_preorder_of_mem_children (h : p ∈ preorder (fun _ ↦ false) c) (hq : q ∈ p.children) :
    q ∈ preorder (fun _ ↦ false) c := by
  induction c using preorder_induction with
  | place c ih =>
    rw [mem_preorder_iff]
    rcases mem_preorder_iff.mp h with rfl | ⟨-, d, hd, hp⟩
    · exact .inr ⟨rfl, q, hq, self_mem_preorder q⟩
    · exact .inr ⟨rfl, d, hd, ih d hd hp⟩

end Members

end PackageAudit.Syntax
