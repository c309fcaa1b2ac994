import PackageAudit.Json.Value
import PackageAudit.Usage.Report

namespace PackageAudit.Usage

open Json (Value)

def FileUsage.document (u : FileUsage) : Value := .members
  [("fileName", .string u.file), ("importStatements", Value.texts u.imports),
   ("usageExamples", Value.texts u.examples), ("lineNumbers", .array (u.lines.map .integer))]

def Record.document (r : Record) : Value := .members
  [("importNodes", Value.texts r.imports), ("usageNodes", Value.texts r.usages),
   ("exportedSymbols", Value.texts r.symbols), ("complexityScore", .integer r.complexity),
   ("migrationRisk", .text r.risk.name), ("fileUsage", .array (r.files.map (·.document)))]

def Metrics.document (m : Metrics) : Value := .members
  [("totalFunctions", .integer m.functions), ("totalClasses", .integer m.classes),
   ("totalImports", .integer m.imports), ("cyclomaticComplexity", .integer m.complexity)]

def rejectionDocument (r : Script.Rejection) : Value := .members
  [("fileName", .string r.file), ("grammar", .text r.dialect.grammar),
   ("message", .string r.message),
   ("line", match r.line with
     | some n => .integer n
     | none => .null)]

def Report.document (r : Report) : Value := .members
  [("packageUsage", .object (r.packages.map fun e ↦ (e.1, e.2.document))),
   ("codeMetrics", r.metrics.document),
   ("dependencyGraph", .object (r.graph.map fun e ↦ (e.1, Value.texts e.2))),
   ("diagnostics", .array (r.rejections.map rejectionDocument))]

end PackageAudit.Usage
