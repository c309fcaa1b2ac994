import PackageAudit.Json.Printer
import PackageAudit.Scan.Document
import PackageAudit.Usage.Document

namespace PackageAudit

open Json (Value)

namespace Results

structure Moment where
  year : Nat
  month : Nat
  day : Nat
  hour : Nat := 0
  minute : Nat := 0
  second : Nat := 0
  microsecond : Nat := 0

def padded (digits n : Nat) : Text :=
  let t := Text.ofNat n
  List.replicate (digits - t.length) (.char '0') ++ t

/-- Date and time with a `T` between them. Microseconds are left out where there are none. -/
def Moment.write (m : Moment) : Text :=
  let fraction : Text := "." ++ padded 6 m.microsecond
  Text.joinWith "-" [padded 4 m.year, padded 2 m.month, padded 2 m.day] ++ "T" ++
    Text.joinWith ":" [padded 2 m.hour, padded 2 m.minute, padded 2 m.second] ++
    (if m.microsecond = 0 then [] else fraction)

structure Metadata where
  project : Text
  analyzedAt : Moment
  version : String
  filesAnalyzed : Nat
  filesFailed : Nat
  dependencies : Nat
  milliseconds : Int

def Metadata.document (m : Metadata) : Value := .members
  [("project", .string m.project), ("analyzedAt", .string m.analyzedAt.write),
   ("depusageVersion", .text m.version), ("filesAnalyzed", .integer m.filesAnalyzed),
   ("filesFailed", .integer m.filesFailed), ("dependencies", .integer m.dependencies),
   ("analysisDurationMs", .integer m.milliseconds)]

end Results

/-- What a run has found. Parts that it did not make are left out. -/
structure Results where
  metadata : Option Results.Metadata := none
  report : Option Usage.Report := none
  scan : Option Scan.Report := none

def Results.document (r : Results) : Value := .members
  ([("version", .text "1.0")] ++
    (r.metadata.map fun m ↦ ("metadata", m.document)).toList ++
    (r.report.map fun u ↦ ("report", u.document)).toList ++
    (r.scan.map fun s ↦ ("quickScan", s.document)).toList)

def Results.write (r : Results) : Text := Json.write .ascii 0 r.document

end PackageAudit
