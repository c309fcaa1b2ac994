import PackageAudit.Usage.Extraction
import PackageAudit.Usage.Ledger

namespace PackageAudit.Usage

open Script (Rejection)

inductive Outcome where
  | rejected (r : Rejection)
  | extracted (file : Text) (x : Extraction)

/-- A batch of analyses asks for examples of at most `cap` usages a file. -/
structure Report where
  packages : Keyed Record
  metrics : Metrics
  graph : Graph
  rejections : List Rejection
  filesAnalyzed : Nat

def outcome (declared : List Text) (s : Source) : Outcome :=
  match Script.parse s with
  | .error r => .rejected r
  | .ok root => .extracted s.name (extract s.content declared root)

def Outcome.rejection? : Outcome → Option Rejection
  | .rejected r => some r
  | .extracted .. => none

def Ledger.addOutcome (cap : Int) (l : Ledger) : Outcome → Ledger
  | .rejected _ => l
  | .extracted file x => l.addFile cap file x

section

variable {α : Type} [Add α] [Mul α] [IntCast α] [LE α] [DecidableLE α]

def Record.rate (config : Risk.Config α) (r : Record) : Record :=
  { r with risk := config.level (r.counts.value config) }

def Ledger.close (config : Risk.Config α) (l : Ledger) (rejections : List Rejection) : Report where
  packages := l.records.map fun e ↦ (e.1, e.2.rate config)
  metrics := l.metrics
  graph := l.graph
  rejections
  filesAnalyzed := l.filesAdded

def report (config : Risk.Config α) (cap : Int) (declared : List Text) (outcomes : List Outcome) :
    Report :=
  (outcomes.foldl (Ledger.addOutcome cap) (.empty declared)).close config
    (outcomes.filterMap (·.rejection?))

/-- The report on the use of the declared packages in the files. -/
def analyze (config : Risk.Config α) (cap : Int) (declared : List Text) (files : List Source) :
    Report :=
  report config cap declared (files.map (outcome declared))

section

variable {m : Type → Type} [Monad m] (onFile : Outcome → m Unit)

/-- Shows an outcome to the caller, then records it. -/
def Ledger.showOutcome (cap : Int) (state : Ledger × List Rejection) (o : Outcome) :
    m (Ledger × List Rejection) := do
  onFile o
  return (state.1.addOutcome cap o, state.2 ++ o.rejection?.toList)

def analyzeShowing (config : Risk.Config α) (cap : Int) (declared : List Text)
    (files : List Source) : m Report := do
  let (l, rejections) ← (files.map (outcome declared)).foldlM (Ledger.showOutcome onFile cap)
    (.empty declared, [])
  return l.close config rejections

end

end

def Report.unused (r : Report) : List Text := Keyed.keys (r.packages.filter fun e ↦ !e.2.isUsed)

end PackageAudit.Usage
