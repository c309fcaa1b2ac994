import PackageAudit.CommandLine.Arguments
import PackageAudit.File.Path

namespace PackageAudit.CommandLine

structure Sources where
  manifest : Option Path
  settings : Option Path
  includeIgnored : Bool

inductive Command where
  | init (project : Path) (force : Bool)
  /-- Analyzes a project and writes the results. -/
  | analyze (project : Path) (sources : Sources) (output : Option Path) (workers : Option Int)
      (verbose quick : Bool)
  | scan (project : Path) (sources : Sources)
  /-- Prints the results of an earlier run. -/
  | review (results : Option Path) (verbose : Bool) (minRisk : Text)
  | help

namespace Command

def helpSwitch : Switch := ⟨"help", ["--help"], false⟩

def manifestSwitch : Switch := ⟨"manifest", ["--manifest", "-m"], true⟩

def settingsSwitch : Switch := ⟨"config", ["--config", "-c"], true⟩

def ignoredSwitch : Switch := ⟨"include-ignored", ["--include-ignored"], false⟩

def verboseSwitch : Switch := ⟨"verbose", ["--verbose", "-v"], false⟩

def globals : List Switch :=
  [helpSwitch, ⟨"version", ["--version", "-V"], false⟩, ⟨"log-level", ["--log-level"], true⟩]

def switches? (name : Text) : Option (List Switch) :=
  ([("init", [⟨"force", ["--force", "-f"], false⟩]),
    ("analyze",
      [manifestSwitch, settingsSwitch, ⟨"output", ["--output", "-o"], true⟩,
       ⟨"workers", ["--workers", "-w"], true⟩, verboseSwitch,
       ⟨"quick", ["--quick"], false⟩, ⟨"no-quick", ["--no-quick"], false⟩, ignoredSwitch]),
    ("scan", [manifestSwitch, settingsSwitch, ignoredSwitch]),
    ("show", [verboseSwitch, ⟨"min-risk", ["--min-risk"], true⟩])].find? fun e ↦
      name = Text.ofString e.1).map fun e ↦ helpSwitch :: e.2

def path? (a : Arguments) (name : String) : Option Path := (a.value? name).map Path.ofText

def sources (a : Arguments) : Sources :=
  ⟨path? a "manifest", path? a "config", a.has "include-ignored"⟩

/-- Whether the quick scan is wanted: what is said last counts, and it is wanted if nothing is said.
-/
def wantsQuick (a : Arguments) : Bool :=
  ((a.given.filter fun s ↦ s.1 = "quick" || s.1 = "no-quick").getLast?).all (·.1 = "quick")

def workers (a : Arguments) : Except UsageError (Option Int) :=
  match a.value? "workers" with
  | none => .ok none
  | some v =>
    match wholeNumber? v with
    | some n => if n < 1 then .error (.badCount v) else .ok (some n)
    | none => .error (.badCount v)

def ofArguments (name : Text) (a : Arguments) : Except UsageError Command := do
  if a.has "help" then return help
  let operand := (a.operands.head?).map Path.ofText
  let project := operand.getD (Path.ofText ".")
  let count ← workers a
  if let some extra := a.operands[1]? then throw (.extraOperand extra)
  if name = "init" then return init project (a.has "force")
  else if name = "analyze" then
    return analyze project (sources a) (path? a "output") count (a.has "verbose") (wantsQuick a)
  else if name = "scan" then return scan project (sources a)
  else return review operand (a.has "verbose") ((a.value? "min-risk").getD "low")

end Command

end PackageAudit.CommandLine
