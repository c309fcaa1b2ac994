import PackageAudit.Proofs.Usage.Report

namespace PackageAudit.Usage

/-- The records hold the same items. -/
structure Record.SameUpToOrder (a b : Record) : Prop where
  imports : a.imports.Perm b.imports
  usages : a.usages.Perm b.usages
  symbols : a.symbols.Perm b.symbols
  complexity : a.complexity = b.complexity
  risk : a.risk = b.risk
  files : a.files.Perm b.files

/-- The graphs have the same packages, each with the same companions. -/
structure Graph.SameUpToOrder (g h : Graph) : Prop where
  keys : g.keys.Perm h.keys
  edges : ∀ package, (g.edges package).Perm (h.edges package)

/-- The reports have the same packages in the same order, with records that hold the same items. -/
structure Report.SameUpToOrder (a b : Report) : Prop where
  packages : List.Forall₂ (fun e e' ↦ e.1 = e'.1 ∧ e.2.SameUpToOrder e'.2) a.packages b.packages
  metrics : a.metrics = b.metrics
  graph : a.graph.SameUpToOrder b.graph
  rejections : a.rejections.Perm b.rejections
  filesAnalyzed : a.filesAnalyzed = b.filesAnalyzed

theorem Record.SameUpToOrder.counts_eq {a b : Record} (h : a.SameUpToOrder b) :
    a.counts = b.counts := by
  rw [Record.counts, Record.counts, h.usages.length_eq, h.symbols.length_eq, h.complexity]

section Parts

variable (cap : Int) (declared : List Text)

theorem shares_perm {files files' : List (Text × Extraction)} (h : files.Perm files')
    (package : Text) : (shares files package).Perm (shares files' package) :=
  h.flatMap_right _

theorem recordOf_sameUpToOrder {shares shares' : List (Text × Evidence)}
    (h : shares.Perm shares') : (recordOf cap shares).SameUpToOrder (recordOf cap shares') where
  imports := h.flatMap_right _
  usages := h.flatMap_right _
  symbols := Distinct.eraseDups_perm (h.flatMap_right _)
  complexity := (h.map _).sum_eq
  risk := rfl
  files := h.map _

theorem metricsOf_perm {files files' : List (Text × Extraction)} (h : files.Perm files') :
    metricsOf files = metricsOf files' := by
  simp only [metricsOf, (h.map _).sum_eq]

theorem companions_perm {companies companies' : List (List Text)}
    (h : companies.Perm companies') (package : Text) :
    (Graph.companions companies package).Perm (Graph.companions companies' package) :=
  Distinct.eraseDups_perm ((h.filter _).flatMap_right _)

theorem foldl_link_sameUpToOrder {companies companies' : List (List Text)}
    (h : companies.Perm companies') :
    Graph.SameUpToOrder (companies.foldl Graph.link []) (companies'.foldl Graph.link []) where
  keys := by
    rw [Graph.keys_foldl_link, Graph.keys_foldl_link]
    exact Distinct.eraseDups_perm h.flatten
  edges := by
    intro package
    rw [Graph.edges_foldl_link, Graph.edges_foldl_link]
    exact companions_perm h package

end Parts

variable {α : Type} [Add α] [Mul α] [IntCast α] [LE α] [DecidableLE α] (config : Risk.Config α)
variable (cap : Int) (declared : List Text)

theorem Record.SameUpToOrder.rate {a b : Record} (h : a.SameUpToOrder b) :
    (a.rate config).SameUpToOrder (b.rate config) where
  imports := h.imports
  usages := h.usages
  symbols := h.symbols
  complexity := h.complexity
  risk := by rw [Record.rate, Record.rate, h.counts_eq]
  files := h.files

/-- The order of the files decides the order of what is found in them, and nothing else. -/
theorem analyze_perm_sameUpToOrder {sources sources' : List Source} (h : sources.Perm sources') :
    (analyze config cap declared sources).SameUpToOrder
      (analyze config cap declared sources') := by
  have hfiles : (extractions declared sources).Perm (extractions declared sources') :=
    h.filterMap _
  constructor
  case packages =>
    exact analyze_packages_forall₂ cap declared config fun package ↦
      (recordOf_sameUpToOrder cap (shares_perm hfiles package)).rate config
  case metrics =>
    rw [analyze_eq, analyze_eq]
    exact metricsOf_perm hfiles
  case graph =>
    rw [analyze_eq, analyze_eq]
    exact foldl_link_sameUpToOrder (hfiles.map _)
  case rejections =>
    rw [analyze_eq, analyze_eq]
    exact h.filterMap _
  case filesAnalyzed =>
    rw [analyze_eq, analyze_eq]
    exact hfiles.length_eq

theorem analyze_perm_sameUpToOrder_swap :
    let a : Source := ⟨"a.js", "import _ from 'lodash';\n_.map(xs, f);\nleftPad.pad('x');\n"⟩
    let b : Source := ⟨"b.js", "const ="⟩
    let c : Source := ⟨"c.js", "export \x7b pad, map \x7d from 'left-pad';\n_.map(ys, g);\n"⟩
    let declared : List Text := ["lodash", "left-pad"]
    [a, b, c].Perm [c, b, a] ∧
    (analyze Risk.Config.default 1 declared [a, b, c]).SameUpToOrder
      (analyze Risk.Config.default 1 declared [c, b, a]) := by
  intro a b c declared
  have h : [a, b, c].Perm [c, b, a] := by decide
  exact ⟨h, analyze_perm_sameUpToOrder Risk.Config.default 1 declared h⟩

end PackageAudit.Usage
