import PackageAudit.Syntax.Node

namespace PackageAudit.Syntax

mutual

def Node.size : Node → Nat
  | ⟨_, _, _, _, _, _, _, children⟩ => sizeOfAll children + 1

def sizeOfAll : List Node → Nat
  | [] => 0
  | n :: ns => n.size + sizeOfAll ns

end

/-- A node and the nodes above it, the nearest first, each with the index of its child on the way.
-/
structure Place where
  node : Node
  above : List (Node × Nat)

namespace Place

def top (root : Node) : Place := ⟨root, []⟩

def children (p : Place) : List Place :=
  p.node.children.zipIdx.map fun (n, i) ↦ ⟨n, (p.node, i) :: p.above⟩

def parent? (p : Place) : Option Place :=
  match p.above with
  | [] => none
  | (n, _) :: above => some ⟨n, above⟩

def isFieldOfParent (p : Place) (f : Field) : Bool :=
  match p.above with
  | [] => false
  | (n, i) :: _ => n.children.findIdx? (·.field = some f) = some i

end Place

/-- The next `steps` places of the walk, where those on the stack are still to be visited. -/
def walkFrom (skip : Place → Bool) : (steps : Nat) → (stack : List Place) → List Place
  | 0, _ => []
  | _ + 1, [] => []
  | steps + 1, p :: stack =>
    p :: walkFrom skip steps (if skip p then stack else p.children ++ stack)

/-- A place comes before its children, and these come in their order. Nothing below a skipped place
is visited. -/
def walk (skip : Place → Bool) (root : Node) : List Place := walkFrom skip root.size [.top root]

def places (root : Node) : List Place := walk (fun _ ↦ false) root

end PackageAudit.Syntax
