import PackageAudit.Display.Frame
import PackageAudit.Display.Grid
import PackageAudit.Display.Markup
import PackageAudit.Results.UsageOutline

namespace PackageAudit.Results

open Display (Grid)
open Json (Value)
open Risk (Level)

def colourOf (risk : Text) : Text :=
  match Level.ofName? risk with
  | some .high => "red"
  | some .medium => "yellow"
  | some .low => "green"
  | none => "white"

def marked (risk : Value) : Text :=
  let colour := match risk with
    | .string t => colourOf t
    | _ => "white"
  "[" ++ colour ++ "]" ++ Json.displayPlain risk ++ "[/]"

def isUnused (record : Value) : Except Breakdown Bool := do
  if !(← record.get "importNodes" .null).isFalsy then return false
  return (← record.get "usageNodes" .null).isFalsy

def sizeAt (record : Value) (key : String) : Except Breakdown Text :=
  return Text.ofNat (← (← record.get key (.array [])).size)

/-- What becomes of a package in the overview. -/
inductive Entry where
  | unused (name : Text)
  | hidden (name : Text)
  | row (name : Text) (cells : List Text)
deriving DecidableEq

namespace Entry

def of (least : Level) (name : Text) (record : Value) : Except Breakdown Entry := do
  if ← isUnused record then return unused name
  let risk ← riskOf record
  if !(least ≤ (← levelOf risk)) then return hidden name
  return row name [name, marked risk, ← sizeAt record "importNodes", ← sizeAt record "usageNodes",
    ← sizeAt record "exportedSymbols", ← sizeAt record "fileUsage"]

def unused? : Entry → Option Text
  | unused name => some name
  | _ => none

def row? : Entry → Option (List Text)
  | row _ cells => some cells
  | _ => none

end Entry

def entries (least : Level) (report : Value) : Except Breakdown (List Entry) := do
  let packages ← (← report.get "packageUsage" (.object [])).entries
  packages.mapM fun (name, record) ↦ Entry.of least name record

def plainRows (rows : List (List Text)) : Except Breakdown (List (List Text)) :=
  rows.mapM (·.mapM Display.Markup.plain)

def packageGrid (es : List Entry) : Except Breakdown Grid :=
  return {
    title := "Package usage"
    bordered := true
    margin := 1
    columns :=
      [⟨"Package", .left⟩, ⟨"Risk", .left⟩, ⟨"Imports", .right⟩, ⟨"Calls", .right⟩,
       ⟨"Symbols", .right⟩, ⟨"Files", .right⟩]
    rows := ← plainRows (es.filterMap (·.row?)) }

def countRow (v : Value) (row : String × String) : Except Breakdown (List Text) :=
  return [Text.ofString row.1, Json.displayPlain (← v.get row.2 (.integer 0))]

def metadataRows : List (String × String) :=
  [("Files analyzed", "filesAnalyzed"), ("Files skipped", "filesFailed")]

def metricRows : List (String × String) :=
  [("Functions", "totalFunctions"), ("Classes", "totalClasses"), ("Imports", "totalImports"),
   ("Cyclomatic complexity", "cyclomaticComplexity")]

def metrics (results : Value) (es : List Entry) : Except Breakdown (List (List Text)) := do
  let metadata ← results.get "metadata" (.object [])
  let counts ← if metadata.isFalsy then pure [] else metadataRows.mapM (countRow metadata)
  let code ← (← results.get "report" (.object [])).get "codeMetrics" (.object [])
  let unused := es.filterMap (·.unused?)
  let names : Text := if unused.isEmpty then Text.ofString "-" else Text.joinWith ", " unused
  return counts ++ (← metricRows.mapM (countRow code)) ++
    [[Text.ofString "Unused dependencies", names]]

def metricLines (width : Nat) (results : Value) (es : List Entry) : Except Breakdown (List Text) := do
  let rows ← plainRows (← metrics results es)
  let grid : Grid := { bordered := false, margin := 2, columns := [{}, {}], rows }
  return Display.Frame.around width (some "Code Metrics")
    (grid.lines (Display.Frame.inside width))

end PackageAudit.Results
