import PackageAudit.Display.Outline
import PackageAudit.Json.Access
import PackageAudit.Json.Printer
import PackageAudit.Risk.Level
import PackageAudit.Usage.Record

namespace PackageAudit.Results

open Display (Label Outline)
open Json (Value)
open Risk (Level)

/-- The level under a name. Every other name counts as low. -/
def levelNamed (name : Text) : Level := (Level.ofName? name).getD .low

def levelOf : Value → Except Breakdown Level
  | .string t => .ok (levelNamed t)
  | .array _ | .object _ => .error .wrongType
  | _ => .ok .low

def riskOf (record : Value) : Except Breakdown Value := record.get "migrationRisk" (.text "low")

/-- The order of packages: the higher risk first, and by name within one risk. -/
def precedes (a b : Level × Text × Value) : Bool :=
  a.1.rank > b.1.rank || (a.1 = b.1 && Text.le a.2.1 b.2.1)

def packages (report : Value) : Except Breakdown (List (Level × Text × Value)) := do
  let entries ← (← report.get "packageUsage" (.object [])).entries
  let rated ← entries.mapM fun (name, record) ↦ return (← levelOf (← riskOf record), name, record)
  return rated.mergeSort precedes

def leaf (l : Label) : Outline Label := .node l []

def exampleLeaf : Value → Except Breakdown (Outline Label)
  | .string t => .ok (leaf (.verbatim (Text.preview 100 t)))
  | _ => .error .noMember

/-- The first values up to the cap of a list, or of the code points of a text. -/
def firstOf (cap : Int) : Value → Except Breakdown (List Value)
  | .object _ => .error .wrongType
  | v => return Usage.upTo cap (← v.items)

def fileOutline (examples : Int) (entry : Value) : Except Breakdown (Outline Label) := do
  let lines ← (← entry.get "lineNumbers" (.array [])).items
  let name ← entry.get "fileName" .null
  let shown ← firstOf examples (← entry.get "usageExamples" (.array []))
  return .node
    (.marked ("[yellow]" ++ Json.displayPlain name ++ "[/] [dim]lines " ++
      Text.joinWith ", " (lines.map Json.displayPlain) ++ "[/]"))
    (← shown.mapM exampleLeaf)

def symbolsLeaf (symbols : Value) : Except Breakdown (List (Outline Label)) :=
  if symbols.isFalsy then return []
  else do
    let names ← (← symbols.items).mapM (·.asText)
    return [leaf (.marked ("[dim]Symbols:[/] " ++ Text.joinWith ", " names))]

def packageOutline (examples : Int) (name : Text) (record : Value) :
    Except Breakdown (List (Outline Label)) := do
  let files ← record.get "fileUsage" (.array [])
  if files.isFalsy then return []
  let risk ← (← riskOf record).asText
  let calls ← (← record.get "usageNodes" (.array [])).size
  let count ← files.size
  let label : Text := name ++ " (" ++ risk ++ ", " ++ Text.ofNat calls ++ " call sites, " ++
    Text.ofNat count ++ " files)"
  let symbols ← symbolsLeaf (← record.get "exportedSymbols" (.array []))
  return [.node (.verbatim label) (symbols ++ (← (← files.items).mapM (fileOutline examples)))]

/-- The used packages of a report whose risk is at least `least`, with at most `examples` calls for
each file. -/
def usageOutline (least : Level) (examples : Int) (report : Value) :
    Except Breakdown (Outline Label) := do
  let wanted := (← packages report).filter (least ≤ ·.1)
  let nodes ← wanted.mapM fun p ↦ packageOutline examples p.2.1 p.2.2
  return .node (.marked "[bold]Package usage[/]") nodes.flatten

def skippedLeaf (rejection : Value) : Except Breakdown (Outline Label) := do
  let line ← rejection.get "line" .null
  let file ← rejection.get "fileName" .null
  let message ← rejection.get "message" .null
  let behind : Text := ":" ++ Json.displayPlain line
  let location := Json.displayPlain file ++ (if line.isFalsy then [] else behind)
  return leaf (.marked ("[yellow]" ++ location ++ "[/] [dim]" ++ Json.displayPlain message ++ "[/]"))

def skippedOutline (report : Value) : Except Breakdown (Option (Outline Label)) := do
  let rejections ← report.get "diagnostics" (.array [])
  if rejections.isFalsy then return none
  let count ← rejections.size
  let title : Text := "[bold yellow]Skipped files (" ++ Text.ofNat count ++ ")[/]"
  return some (.node (.marked title) (← (← rejections.items).mapM skippedLeaf))

end PackageAudit.Results
