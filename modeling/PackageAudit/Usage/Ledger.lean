import PackageAudit.Usage.Record

namespace PackageAudit.Usage

/-- The packages used together with each package, in the order of first appearance. -/
abbrev Graph := Keyed (List Text)

structure Ledger where
  records : Keyed Record
  metrics : Metrics
  graph : Graph
  filesAdded : Nat
deriving Inhabited

def Ledger.empty (declared : List Text) : Ledger where
  records := declared.map (·, {})
  metrics := {}
  graph := []
  filesAdded := 0

def Graph.link (g : Graph) (packages : List Text) : Graph :=
  packages.foldl (fun g p ↦ g.amend p (union · (packages.filter (· ≠ p)))) g

def Ledger.addEvidence (cap : Int) (file : Text) (records : Keyed Record) (e : Text × Evidence) :
    Keyed Record :=
  match records.get? e.1 with
  | none => records
  | some r => records.insert e.1 (r.merge cap file e.2)

/-- The ledger with the evidence of one more file. Only declared packages are recorded. -/
def Ledger.addFile (cap : Int) (l : Ledger) (file : Text) (x : Extraction) : Ledger where
  records := x.evidence.foldl (addEvidence cap file) l.records
  metrics := l.metrics.merge x
  graph := Graph.link l.graph (x.evidence.keys.filter l.records.contains)
  filesAdded := l.filesAdded + 1

def Ledger.ofFiles (cap : Int) (declared : List Text) (files : List (Text × Extraction)) : Ledger :=
  files.foldl (fun l f ↦ l.addFile cap f.1 f.2) (.empty declared)

end PackageAudit.Usage
