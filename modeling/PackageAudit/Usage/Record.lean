import PackageAudit.Risk.Score
import PackageAudit.Usage.Evidence

namespace PackageAudit.Usage

structure FileUsage where
  file : Text
  imports : List Text
  examples : List Text
  lines : List Int
deriving DecidableEq

/-- The use of one package: its parts come file by file. -/
structure Record where
  imports : List Text := []
  usages : List Text := []
  symbols : List Text := []
  complexity : Int := 0
  risk : Risk.Level := .low
  files : List FileUsage := []
deriving DecidableEq, Inhabited

structure Metrics where
  functions : Int := 0
  classes : Int := 0
  imports : Int := 0
  complexity : Int := 0
deriving DecidableEq, Inhabited

def Record.isUsed (r : Record) : Bool := !r.imports.isEmpty || !r.usages.isEmpty

def Record.counts (r : Record) : Risk.Counts := ⟨r.usages.length, r.symbols.length, r.complexity⟩

/-- The first items up to the cap; a negative cap counts from the end. -/
def upTo {α : Type} (cap : Int) (items : List α) : List α :=
  if 0 ≤ cap then items.take cap.toNat else items.take (items.length - cap.natAbs)

def union (known new : List Text) : List Text :=
  new.foldl (fun ts t ↦ if ts.contains t then ts else ts ++ [t]) known

def Record.merge (cap : Int) (r : Record) (file : Text) (e : Evidence) : Record :=
  { r with
    imports := r.imports ++ e.imports
    usages := r.usages ++ e.usages
    symbols := union r.symbols e.symbols
    complexity := r.complexity + e.complexity
    files := r.files ++ [⟨file, e.imports, upTo cap e.usages, e.lines⟩] }

def Metrics.merge (m : Metrics) (x : Extraction) : Metrics where
  functions := m.functions + x.functions
  classes := m.classes + x.classes
  imports := m.imports + x.imports
  complexity := m.complexity + x.decisionPoints + 1

end PackageAudit.Usage
