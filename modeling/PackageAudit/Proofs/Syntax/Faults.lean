import PackageAudit.Proofs.Lists
import PackageAudit.Proofs.Syntax.Preorder
import PackageAudit.Syntax.Fault

namespace PackageAudit.Syntax

section Nodes

mutual

/-- A node and the nodes below it, each before those below it and these from left to right, without
what is below a skipped node. -/
def Node.visited (skip : Node → Bool) : Node → List Node
  | ⟨kind, named, field, start, stop, missing, faulty, children⟩ =>
    let n : Node := ⟨kind, named, field, start, stop, missing, faulty, children⟩
    n :: if skip n then [] else visitedAll skip children

def visitedAll (skip : Node → Bool) : List Node → List Node
  | [] => []
  | n :: ns => n.visited skip ++ visitedAll skip ns

end

def Node.nodes (n : Node) : List Node := n.visited fun _ ↦ false

variable (skip : Node → Bool) {n m : Node}

theorem visitedAll_eq (ns : List Node) : visitedAll skip ns = ns.flatMap (·.visited skip) := by
  induction ns with
  | nil => rfl
  | cons n ns ih => rw [visitedAll, ih, List.flatMap_cons]

theorem Node.visited_eq (n : Node) :
    n.visited skip = n :: if skip n then [] else n.children.flatMap (·.visited skip) := by
  cases n
  rw [Node.visited, visitedAll_eq]

theorem Node.nodes_eq (n : Node) : n.nodes = n :: n.children.flatMap Node.nodes := by
  rw [nodes, visited_eq, if_neg Bool.false_ne_true]
  rfl

theorem Node.mem_nodes_iff : m ∈ n.nodes ↔ m = n ∨ ∃ c ∈ n.children, m ∈ c.nodes := by
  rw [nodes_eq, List.mem_cons, List.mem_flatMap]

theorem Node.self_mem_nodes (n : Node) : n ∈ n.nodes := mem_nodes_iff.mpr (.inl rfl)

end Nodes

section Flags

variable {n : Node}

/-- The flag of every node says whether the node or one below it is a fault. -/
def Node.FlagsFaults (n : Node) : Prop :=
  ∀ m ∈ n.nodes, m.faulty = true ↔ ∃ k ∈ m.nodes, k.isFault = true

theorem Node.FlagsFaults.child (h : n.FlagsFaults) {c : Node} (hc : c ∈ n.children) :
    c.FlagsFaults :=
  fun m hm ↦ h m (mem_nodes_iff.mpr (.inr ⟨c, hc, hm⟩))

/-- Flags may be told from the children up. -/
theorem Node.flagsFaults_iff : n.FlagsFaults ↔
    (n.faulty = true ↔ n.isFault = true ∨ ∃ c ∈ n.children, c.faulty = true) ∧
      ∀ c ∈ n.children, c.FlagsFaults := by
  have hself (hchildren : ∀ c ∈ n.children, c.FlagsFaults) :
      (∃ k ∈ n.nodes, k.isFault = true) ↔
        n.isFault = true ∨ ∃ c ∈ n.children, c.faulty = true := by
    constructor
    · rintro ⟨k, hk, hfault⟩
      rcases mem_nodes_iff.mp hk with rfl | ⟨c, hc, hk⟩
      · exact .inl hfault
      · exact .inr ⟨c, hc, (hchildren c hc c c.self_mem_nodes).mpr ⟨k, hk, hfault⟩⟩
    · rintro (hfault | ⟨c, hc, hfaulty⟩)
      · exact ⟨n, n.self_mem_nodes, hfault⟩
      · obtain ⟨k, hk, hfault⟩ := (hchildren c hc c c.self_mem_nodes).mp hfaulty
        exact ⟨k, mem_nodes_iff.mpr (.inr ⟨c, hc, hk⟩), hfault⟩
  constructor
  · intro h
    have hchildren : ∀ c ∈ n.children, c.FlagsFaults := fun c hc ↦ h.child hc
    exact ⟨(h n n.self_mem_nodes).trans (hself hchildren), hchildren⟩
  · rintro ⟨hn, hchildren⟩ m hm
    rcases mem_nodes_iff.mp hm with rfl | ⟨c, hc, hm⟩
    · exact hn.trans (hself hchildren).symm
    · exact hchildren c hc m hm

end Flags

section Building

namespace Node

variable {n m : Node} {children : List Node}

theorem flagsFaults_ofChildren (kind : Kind) (h : ∀ c ∈ children, c.FlagsFaults) :
    (ofChildren kind children).FlagsFaults := by
  have hflag : (kind = .error || children.any (·.faulty)) = true ↔
      (kind = .error || false) = true ∨ ∃ c ∈ children, c.faulty = true := by simp
  exact flagsFaults_iff.mpr ⟨hflag, h⟩

theorem flagsFaults_of_children_eq_nil (hchildren : n.children = [])
    (h : n.faulty = n.isFault) : n.FlagsFaults := by
  refine flagsFaults_iff.mpr ⟨?_, ?_⟩ <;> simp [hchildren, h]

theorem flagsFaults_leaf (kind : Kind) (named : Bool) (start stop : ℕ) :
    (leaf kind named start stop).FlagsFaults :=
  flagsFaults_of_children_eq_nil rfl (Bool.or_false _).symm

theorem FlagsFaults.congr (h : n.FlagsFaults) (hfault : m.isFault = n.isFault)
    (hfaulty : m.faulty = n.faulty) (hchildren : m.children = n.children) : m.FlagsFaults := by
  rw [flagsFaults_iff] at h ⊢
  rwa [hfault, hfaulty, hchildren]

theorem FlagsFaults.underField (h : n.FlagsFaults) (f : Field) : (n.underField f).FlagsFaults :=
  h.congr rfl rfl rfl

theorem FlagsFaults.of_kind_ne (h : n.FlagsFaults) (hkind : n.kind ≠ .error)
    (hkind' : m.kind ≠ .error) (hmissing : m.missing = n.missing) (hfaulty : m.faulty = n.faulty)
    (hchildren : m.children = n.children) : m.FlagsFaults :=
  h.congr (by simp [isFault, hkind, hkind', hmissing]) hfaulty hchildren

end Node

end Building

end PackageAudit.Syntax
