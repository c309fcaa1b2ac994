import PackageAudit.Json.Value
import PackageAudit.Scan.Report

namespace PackageAudit.Scan

open Json (Value)

def Usage.document (u : Usage) : Value := .members
  [("filesUsing", .texts u.files), ("methodsUsed", .texts u.methods),
   ("importStatements", .texts u.imports)]

def Report.document (r : Report) : Value := .members
  [("packageUsage", .object (r.packages.map fun e ↦ (e.1, e.2.document))),
   ("unusedDependencies", .texts r.unused), ("totalFiles", .integer r.totalFiles)]

end PackageAudit.Scan
