import PackageAudit.Proofs.Usage.CoUsage
import PackageAudit.Proofs.Usage.Reading
import PackageAudit.Usage.Report

namespace PackageAudit.Usage

def Outcome.extracted? : Outcome → Option (Text × Extraction)
  | .rejected _ => none
  | .extracted file x => some (file, x)

/-- What the files that can be read give, each under its name. -/
def extractions (declared : List Text) (sources : List Source) : List (Text × Extraction) :=
  sources.filterMap fun s ↦
    (Script.parse s).toOption.map fun root ↦ (s.name, extract s.content declared root)

def rejections (sources : List Source) : List Script.Rejection :=
  sources.filterMap fun s ↦ match Script.parse s with
    | .error r => some r
    | .ok _ => none

variable (cap : Int) (declared : List Text)

theorem foldl_addOutcome (outcomes : List Outcome) :
    outcomes.foldl (Ledger.addOutcome cap) (.empty declared) =
      Ledger.ofFiles cap declared (outcomes.filterMap (·.extracted?)) := by
  induction outcomes using List.reverseRecOn with
  | nil => rfl
  | append_singleton outcomes o ih =>
    rw [List.foldl_append, ih, List.filterMap_append]
    cases o with
    | rejected r =>
      have hnone : [Outcome.rejected r].filterMap (·.extracted?) = [] := rfl
      rw [hnone, List.append_nil]
      rfl
    | extracted file x =>
      have hsome : [Outcome.extracted file x].filterMap (·.extracted?) = [(file, x)] := rfl
      rw [hsome, ofFiles_concat]
      rfl

theorem outcome_extracted? (s : Source) :
    (outcome declared s).extracted? =
      (Script.parse s).toOption.map fun root ↦ (s.name, extract s.content declared root) := by
  unfold outcome
  cases Script.parse s <;> rfl

theorem outcome_rejection? (s : Source) :
    (outcome declared s).rejection? = match Script.parse s with
      | .error r => some r
      | .ok _ => none := by
  unfold outcome
  cases Script.parse s <;> rfl

variable {α : Type} [Add α] [Mul α] [IntCast α] [LE α] [DecidableLE α] (config : Risk.Config α)

/-- The report is made of the shares, the companies and the counts of the readable files. -/
theorem analyze_eq (sources : List Source) :
    analyze config cap declared sources =
      let files := extractions declared sources
      { packages := declared.map fun p ↦ (p, (recordOf cap (shares files p)).rate config)
        metrics := metricsOf files
        graph := (files.map (company declared)).foldl Graph.link []
        rejections := rejections sources
        filesAnalyzed := files.length } := by
  have hfiles : (sources.map (outcome declared)).filterMap (·.extracted?) =
      extractions declared sources := by
    rw [List.filterMap_map]
    exact List.filterMap_congr fun s _ ↦ outcome_extracted? declared s
  have hrejections : (sources.map (outcome declared)).filterMap (·.rejection?) =
      rejections sources := by
    rw [List.filterMap_map]
    exact List.filterMap_congr fun s _ ↦ outcome_rejection? declared s
  rw [analyze, report, Ledger.close]
  dsimp only
  rw [foldl_addOutcome, hfiles, hrejections, ofFiles_records, ofFiles_metrics, ofFiles_graph,
    ofFiles_filesAdded, List.map_map]
  rfl

/-- Reports on the same packages have their records in the same order, so that they compare package
by package. -/
theorem analyze_packages_forall₂ {R : Record → Record → Prop} {sources sources' : List Source}
    (h : ∀ package, R ((recordOf cap (shares (extractions declared sources) package)).rate config)
      ((recordOf cap (shares (extractions declared sources') package)).rate config)) :
    List.Forall₂ (fun e e' ↦ e.1 = e'.1 ∧ R e.2 e'.2)
      (analyze config cap declared sources).packages
      (analyze config cap declared sources').packages := by
  rw [analyze_eq, analyze_eq, List.forall₂_map_left_iff, List.forall₂_map_right_iff,
    List.forall₂_same]
  exact fun package _ ↦ ⟨rfl, h package⟩

theorem exists_extract_of_mem_extractions {sources : List Source} {f : Text × Extraction}
    (h : f ∈ extractions declared sources) :
    ∃ source root, f.2 = extract source declared root := by
  obtain ⟨s, _, hs⟩ := List.mem_filterMap.mp h
  obtain ⟨root, _, rfl⟩ := Option.map_eq_some_iff.mp hs
  exact ⟨s.content, root, rfl⟩

end PackageAudit.Usage
