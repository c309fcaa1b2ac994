import PackageAudit.Proofs.Usage.Report

namespace PackageAudit.Usage

def withNew (known more : List Text) : List Text := known ++ more.filter (!known.contains ·)

theorem eraseDups_append_eq_withNew (as bs : List Text) :
    (as ++ bs).eraseDups = withNew as.eraseDups bs.eraseDups := by
  have hnew : bs.removeAll as = bs.filter (!as.eraseDups.contains ·) := by
    apply List.filter_congr
    intro b _
    rw [Bool.eq_iff_iff]
    simp [List.mem_eraseDups]
  rw [List.eraseDups_append, hnew, withNew, Distinct.filter_eraseDups]

def Record.join (a b : Record) : Record where
  imports := a.imports ++ b.imports
  usages := a.usages ++ b.usages
  symbols := withNew a.symbols b.symbols
  complexity := a.complexity + b.complexity
  files := a.files ++ b.files

def Metrics.join (a b : Metrics) : Metrics where
  functions := a.functions + b.functions
  classes := a.classes + b.classes
  imports := a.imports + b.imports
  complexity := a.complexity + b.complexity

def Graph.join (g h : Graph) : Graph :=
  (withNew g.keys h.keys).map fun p ↦ (p, withNew (g.edges p) (h.edges p))

example : Graph.join [("a", ["b"]), ("b", ["a"])] [("c", ["a"]), ("a", ["c", "b"])] =
    ([("a", ["b", "c"]), ("b", ["a"]), ("c", ["a"])] : Graph) := by
  decide

section Parts

variable (cap : Int) (declared : List Text)

theorem recordOf_append (shares more : List (Text × Evidence)) :
    recordOf cap (shares ++ more) = (recordOf cap shares).join (recordOf cap more) := by
  simp [recordOf, Record.join, eraseDups_append_eq_withNew]

theorem shares_append (files more : List (Text × Extraction)) (package : Text) :
    shares (files ++ more) package = shares files package ++ shares more package :=
  List.flatMap_append

theorem metricsOf_append (files more : List (Text × Extraction)) :
    metricsOf (files ++ more) = (metricsOf files).join (metricsOf more) := by
  simp [metricsOf, Metrics.join]

theorem companions_append (companies more : List (List Text)) (package : Text) :
    Graph.companions (companies ++ more) package =
      withNew (Graph.companions companies package) (Graph.companions more package) := by
  unfold Graph.companions
  rw [List.filter_append, List.flatMap_append, eraseDups_append_eq_withNew]

theorem foldl_link_append (companies more : List (List Text)) :
    (companies ++ more).foldl Graph.link [] =
      (companies.foldl Graph.link []).join (more.foldl Graph.link []) := by
  rw [Graph.foldl_link, List.flatten_append, eraseDups_append_eq_withNew, Graph.join,
    Graph.keys_foldl_link, Graph.keys_foldl_link]
  apply List.map_congr_left
  intro p _
  rw [companions_append, Graph.edges_foldl_link, Graph.edges_foldl_link]

theorem extractions_append_sources (xs ys : List Source) :
    extractions declared (xs ++ ys) = extractions declared xs ++ extractions declared ys :=
  List.filterMap_append

theorem rejections_append (xs ys : List Source) :
    rejections (xs ++ ys) = rejections xs ++ rejections ys :=
  List.filterMap_append

end Parts

variable {α : Type} [Add α] [Mul α] [IntCast α] [LE α] [DecidableLE α] (config : Risk.Config α)

/-- Two reports on the same dependencies as one, with all risks rated anew. -/
def Report.join (a b : Report) : Report where
  packages := a.packages.map fun e ↦
    (e.1, (e.2.join ((b.packages.get? e.1).getD {})).rate config)
  metrics := a.metrics.join b.metrics
  graph := a.graph.join b.graph
  rejections := a.rejections ++ b.rejections
  filesAnalyzed := a.filesAnalyzed + b.filesAnalyzed

variable (cap : Int) (declared : List Text)

theorem packages_append (files more : List (Text × Extraction)) :
    (declared.map fun p ↦ (p, (recordOf cap (shares (files ++ more) p)).rate config)) =
      (declared.map fun p ↦ (p, (recordOf cap (shares files p)).rate config)).map fun e ↦
        (e.1, (e.2.join ((Keyed.get? (declared.map fun p ↦
          (p, (recordOf cap (shares more p)).rate config)) e.1).getD {})).rate config) := by
  rw [List.map_map]
  apply List.map_congr_left
  intro p hp
  have hget := Keyed.get?_map_pair declared (fun p ↦ (recordOf cap (shares more p)).rate config) p
  rw [if_pos hp] at hget
  rw [shares_append, recordOf_append, Function.comp_apply, hget]
  rfl

/-- The report on two batches is the report on the first, joined by that on the second. -/
theorem analyze_append (xs ys : List Source) :
    analyze config cap declared (xs ++ ys) =
      (analyze config cap declared xs).join config (analyze config cap declared ys) := by
  have hfiles := extractions_append_sources declared xs ys
  have hrejections := rejections_append xs ys
  rw [analyze_eq, analyze_eq, analyze_eq, hfiles, hrejections]
  dsimp only [Report.join]
  rw [packages_append, metricsOf_append, List.map_append, foldl_link_append, List.length_append]

end PackageAudit.Usage
