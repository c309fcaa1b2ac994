import PackageAudit.Proofs.Package.Likeness
import PackageAudit.Proofs.Usage.Report

namespace PackageAudit.Usage

open Package (AreDistinguishable)
open Syntax

variable {declared declared' : List Text}

theorem contains_perm (hp : declared.Perm declared') : declared.contains = declared'.contains :=
  funext fun _ ↦ hp.contains_eq

section Extract

variable (source : Text)

theorem package?_perm (hp : declared.Perm declared') (i : Import) :
    i.package? declared = i.package? declared' := by
  rw [Import.package?, Import.package?, contains_perm hp]

theorem visit_perm (hp : declared.Perm declared') :
    Findings.visit source declared = Findings.visit source declared' := by
  funext f p
  simp only [Findings.visit, Findings.addImport, package?_perm hp]

theorem addCall_perm (h : AreDistinguishable declared) (hp : declared.Perm declared')
    (bindings : Keyed (Option Text)) :
    Extraction.addCall source declared bindings = Extraction.addCall source declared' bindings := by
  funext x call
  simp only [Extraction.addCall, callPackage?, h.ofIdentifier?_perm hp]

/-- What is found in a tree depends on the packages that are declared, and not on their order. -/
theorem extract_perm (h : AreDistinguishable declared) (hp : declared.Perm declared')
    (root : Node) : extract source declared root = extract source declared' root := by
  simp only [extract, findings, visit_perm source hp, addCall_perm source h hp]

end Extract

theorem extractions_perm (h : AreDistinguishable declared) (hp : declared.Perm declared')
    (sources : List Source) : extractions declared sources = extractions declared' sources := by
  simp only [extractions, extract_perm _ h hp]

theorem company_perm (hp : declared.Perm declared') : company declared = company declared' := by
  funext f
  rw [company, company, contains_perm hp]

/-- The second report follows the order of `declared` in its records, and says what the first one
says. -/
structure Report.IsRedeclaration (declared : List Text) (before after : Report) : Prop where
  keys : after.packages.keys = declared
  packages : ∀ package, after.packages.get? package = before.packages.get? package
  metrics : after.metrics = before.metrics
  graph : after.graph = before.graph
  rejections : after.rejections = before.rejections
  filesAnalyzed : after.filesAnalyzed = before.filesAnalyzed

variable {α : Type} [Add α] [Mul α] [IntCast α] [LE α] [DecidableLE α] (config : Risk.Config α)
variable (cap : Int)

/-- The order of the declarations decides the order of the records, and nothing else. -/
theorem analyze_declared_perm (h : AreDistinguishable declared) (hp : declared.Perm declared')
    (sources : List Source) :
    Report.IsRedeclaration declared' (analyze config cap declared sources)
      (analyze config cap declared' sources) := by
  have hfiles := extractions_perm h hp sources
  rw [analyze_eq, analyze_eq, ← hfiles]
  constructor
  case keys => simp [Keyed.keys, Function.comp_def]
  case packages =>
    intro package
    dsimp only
    rw [Keyed.get?_map_pair, Keyed.get?_map_pair]
    exact if_congr hp.mem_iff.symm rfl rfl
  case graph => dsimp only; rw [company_perm hp]
  all_goals rfl

theorem analyze_declared_perm_kelvin :
    let declared : List Text := ["k-nex", "lodash", "left-pad"]
    let declared' : List Text := ["left-pad", "lodash", "k-nex"]
    let sources : List Source :=
      [⟨"a.js", "import m from 'lodash';\n\u212anex.raw(m.map(xs, leftPad.pad));\n"⟩]
    AreDistinguishable declared ∧ declared.Perm declared' ∧
    Report.IsRedeclaration declared' (analyze Risk.Config.default 10 declared sources)
      (analyze Risk.Config.default 10 declared' sources) := by
  intro declared declared' sources
  have h : AreDistinguishable declared := ⟨by decide, by decide⟩
  have hp : declared.Perm declared' := by decide
  exact ⟨h, hp, analyze_declared_perm Risk.Config.default 10 h hp sources⟩

end PackageAudit.Usage
