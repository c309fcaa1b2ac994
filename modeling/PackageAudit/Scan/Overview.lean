import PackageAudit.Display.Grid
import PackageAudit.Display.Markup
import PackageAudit.Results.Overview
import PackageAudit.Scan.Report

namespace PackageAudit.Scan

open Display (Grid)

def Usage.row (config : Risk.Config Float) (name : Text) (u : Usage) : List Text :=
  [name, Results.marked (.text (u.level config name).name), Text.ofNat u.files.length,
   Text.joinWith ", " (u.methods.take 8)]

def Report.grid (config : Risk.Config Float) (r : Report) : Except Breakdown Grid :=
  return {
    title := "Quick scan"
    bordered := true
    margin := 1
    columns :=
      [⟨"Package", .left⟩, ⟨"Complexity", .left⟩, ⟨"Files", .right⟩, ⟨"Methods", .left⟩]
    rows := ← Results.plainRows
      ((r.packages.filter (!·.2.files.isEmpty)).map fun e ↦ e.2.row config e.1) }

def Report.remarks (r : Report) : List Text :=
  ["[dim]Scanned " ++ Text.ofNat r.totalFiles ++ " files[/]"] ++
    (if r.unused.isEmpty then []
      else ["[yellow]Unused dependencies:[/] " ++ Text.joinWith ", " r.unused])

end PackageAudit.Scan
