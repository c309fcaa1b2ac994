import PackageAudit.Syntax.Walk

namespace PackageAudit.Syntax

def Node.isFault (n : Node) : Bool := n.kind = .error || n.missing

/-- The first fault of a tree. The search skips all nodes without faults below them. -/
def firstFault? (root : Node) : Option Node :=
  if root.faulty then
    some (((walk (!·.node.faulty) root).find? (·.node.isFault)).elim root (·.node))
  else none

end PackageAudit.Syntax
