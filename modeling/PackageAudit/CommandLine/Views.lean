import PackageAudit.CommandLine.Session
import PackageAudit.Results.Overview
import PackageAudit.Scan.Overview

namespace PackageAudit.CommandLine

open Json (Value)
open Results (entries packageGrid metricLines usageOutline skippedOutline)
open Risk (Level)
open Session

def exampleCount : Int := 3

def printOverview (least : Level) (results : Value) : Session Unit := do
  let report ← attempt (results.get "report" (.object []))
  let es ← attempt (entries least report)
  printBlank
  printGrid (← attempt (packageGrid es))
  printLines (← attempt (metricLines (← width) results es))

def printUsage (least : Level) (examples : Int) (report : Value) : Session Unit := do
  printOutline (← attempt (usageOutline least examples report))

def printSkipped (report : Value) : Session Unit := do
  match ← attempt (skippedOutline report) with
  | some o => printOutline o
  | none => return

def printScan (config : Risk.Config Float) (r : Scan.Report) : Session Unit := do
  printGrid (← attempt (r.grid config))
  r.remarks.forM print

end PackageAudit.CommandLine
