import PackageAudit.Proofs.Usage.Report

namespace PackageAudit

variable {declared : List Text} {q : Text}

def Package.IsCustomary (package : Text) : Prop := ∃ c ∈ customary, Text.ofString c.2 = package

instance : DecidablePred Package.IsCustomary :=
  fun package ↦ inferInstanceAs (Decidable (∃ c ∈ Package.customary, Text.ofString c.2 = package))

theorem Package.filter_find?_append (hq : q ∉ declared) (p : Text → Bool) :
    ((declared ++ [q]).find? p).filter (· ≠ q) = declared.find? p := by
  rw [List.find?_append]
  cases h : declared.find? p with
  | none => cases hp : p q <;> simp [hp]
  | some package =>
    have hne : package ≠ q := fun he ↦ hq (he ▸ List.mem_of_find?_eq_some h)
    simp [hne]

/-- Likeness tries the packages in their order, and so the new one last. Only a customary name would
be tried before all others. -/
theorem Package.filter_ofIdentifier?_append (hq : q ∉ declared) (hc : ¬ IsCustomary q)
    (identifier : Text) :
    (ofIdentifier? (declared ++ [q]) identifier).filter (· ≠ q) =
      ofIdentifier? declared identifier := by
  unfold ofIdentifier?
  split_ifs
  · rfl
  · cases hcustom : customary? identifier with
    | none => exact filter_find?_append hq _
    | some package =>
      obtain ⟨c, hfind, rfl⟩ := Option.map_eq_some_iff.mp hcustom
      have hne : Text.ofString c.2 ≠ q := fun he ↦ hc ⟨c, List.mem_of_find?_eq_some hfind, he⟩
      have hcontains : (declared ++ [q]).contains (Text.ofString c.2) =
          declared.contains (Text.ofString c.2) := by
        simp [hne]
      dsimp only
      rw [hcontains]
      split_ifs
      · simp [hne]
      · exact filter_find?_append hq _

-- A customary name goes before likeness, wherever its package is declared.
example : Package.ofIdentifier? ["v-ue"] "Vue" = some "v-ue" ∧
    Package.ofIdentifier? ["v-ue", "vue"] "Vue" = some "vue" := by
  decide

namespace Usage

open Syntax

theorem filter_package?_append (hq : q ∉ declared) (i : Import) :
    (i.package? (declared ++ [q])).filter (· ≠ q) = i.package? declared := by
  unfold Import.package?
  rw [Option.filter_filter]
  congr 1
  funext package
  by_cases he : package = q
  · subst he; simp [hq]
  · simp [he]

theorem binding?_append (hq : q ∉ declared) (imports : List Import) (name : Text) :
    (binding? (declared ++ [q]) imports name).map (·.filter (· ≠ q)) =
      binding? declared imports name := by
  unfold binding?
  rw [Option.map_map]
  congr 1
  exact funext (filter_package?_append hq)

section Extract

variable (source : Text)

theorem filter_attributed?_append (hq : q ∉ declared) (hc : ¬ Package.IsCustomary q)
    (imports : List Import) (call : Node) :
    (attributed? source (declared ++ [q]) imports call).filter (· ≠ q) =
      attributed? source declared imports call := by
  unfold attributed?
  cases rootName? source call with
  | none => rfl
  | some name =>
    have hbinding := binding?_append hq imports name
    rw [Option.bind_some, Option.bind_some, ← hbinding]
    cases binding? (declared ++ [q]) imports name with
    | none => exact Package.filter_ofIdentifier?_append hq hc name
    | some package => rfl

def Extraction.without (q : Text) (x : Extraction) : Extraction :=
  { x with evidence := x.evidence.filter (·.1 ≠ q) }

theorem filter_evidencePackages_append (hq : q ∉ declared) (hc : ¬ Package.IsCustomary q)
    (root : Node) :
    (evidencePackages source (declared ++ [q]) root).filter (· ≠ q) =
      evidencePackages source declared root := by
  unfold evidencePackages
  rw [Distinct.filter_eraseDups, List.filter_append, List.filter_filterMap, List.filter_filterMap]
  simp only [filter_package?_append hq, filter_attributed?_append source hq hc]

theorem packageEvidence_append (hq : q ∉ declared) (hc : ¬ Package.IsCustomary q) (root : Node)
    {package : Text} (hp : package ≠ q) :
    packageEvidence source (declared ++ [q]) root package =
      packageEvidence source declared root package := by
  have hkeep (o : Option Text) : o.filter (· ≠ q) = some package ↔ o = some package := by
    simp [Option.filter_eq_some_iff, hp]
  have himports : (allImports source root).filter (·.package? (declared ++ [q]) = some package) =
      (allImports source root).filter (·.package? declared = some package) := by
    apply List.filter_congr
    intro i _
    rw [decide_eq_decide, ← filter_package?_append hq i, hkeep]
  have hcalls : (allMemberCalls root).filter
      (Attributed source (declared ++ [q]) (allImports source root) · package) =
      (allMemberCalls root).filter
        (Attributed source declared (allImports source root) · package) := by
    apply List.filter_congr
    intro call _
    rw [decide_eq_decide, ← attributed?_eq_some_iff, ← attributed?_eq_some_iff,
      ← filter_attributed?_append source hq hc, hkeep]
  unfold packageEvidence
  dsimp only
  rw [himports, hcalls]

theorem extract_append (hq : q ∉ declared) (hc : ¬ Package.IsCustomary q) (root : Node) :
    extract source declared root = (extract source (declared ++ [q]) root).without q := by
  have hevidence : (reading source declared root).evidence =
      (reading source (declared ++ [q]) root).evidence.filter (·.1 ≠ q) := by
    unfold reading
    dsimp only
    rw [List.filter_map, ← filter_evidencePackages_append source hq hc]
    apply List.map_congr_left
    intro package hp
    have hne : package ≠ q := by simpa using (List.mem_filter.mp hp).2
    rw [packageEvidence_append source hq hc root hne]
  rw [extract_eq_reading, extract_eq_reading, Extraction.without, ← hevidence]
  rfl

end Extract

theorem extractions_append (hq : q ∉ declared) (hc : ¬ Package.IsCustomary q)
    (sources : List Source) :
    extractions declared sources =
      (extractions (declared ++ [q]) sources).map fun f ↦ (f.1, f.2.without q) := by
  unfold extractions
  rw [List.map_filterMap]
  apply List.filterMap_congr
  intro s _
  rw [Option.map_map]
  congr 1
  funext root
  exact congrArg (Prod.mk s.name) (extract_append s.content hq hc root)

section Without

variable (files : List (Text × Extraction))

theorem metricsOf_without :
    metricsOf (files.map fun f ↦ (f.1, f.2.without q)) = metricsOf files := by
  simp [metricsOf, Extraction.without, Function.comp_def]

theorem shares_without {package : Text} (hp : package ≠ q) :
    shares (files.map fun f ↦ (f.1, f.2.without q)) package = shares files package := by
  unfold shares
  rw [List.flatMap_map]
  congr 1
  funext f
  have hfilter : (f.2.evidence.filter (·.1 ≠ q)).filter (·.1 = package) =
      f.2.evidence.filter (·.1 = package) := by
    rw [List.filter_filter]
    apply List.filter_congr
    intro e _
    by_cases he : e.1 = package <;> simp [he, hp]
  dsimp only [Extraction.without]
  rw [hfilter]

theorem company_without (hq : q ∉ declared) (f : Text × Extraction) :
    company declared (f.1, f.2.without q) = (company (declared ++ [q]) f).filter (· ≠ q) := by
  have hkeys : (f.2.without q).evidence.keys = f.2.evidence.keys.filter (· ≠ q) := by
    simp [Extraction.without, Keyed.keys, List.filter_map, Function.comp_def]
  unfold company
  dsimp only
  rw [hkeys, List.filter_filter, List.filter_filter]
  apply List.filter_congr
  intro package _
  by_cases he : package = q
  · subst he; simp [hq]
  · simp [he]

end Without

namespace Graph

def without (q : Text) (g : Graph) : Graph :=
  (g.filter (·.1 ≠ q)).map fun e ↦ (e.1, e.2.filter (· ≠ q))

theorem companions_filter (companies : List (List Text)) {package : Text} (hp : package ≠ q) :
    companions (companies.map (·.filter (· ≠ q))) package =
      (companions companies package).filter (· ≠ q) := by
  have hmem : companies.filter ((package ∈ ·) ∘ (·.filter (· ≠ q))) =
      companies.filter (package ∈ ·) := by
    apply List.filter_congr
    intro c _
    simp [hp]
  have hrest (c : List Text) : (c.filter (· ≠ q)).filter (· ≠ package) =
      (c.filter (· ≠ package)).filter (· ≠ q) := by
    simp only [List.filter_filter, Bool.and_comm]
  unfold companions
  rw [Distinct.filter_eraseDups, List.filter_flatMap, List.filter_map, List.flatMap_map, hmem]
  simp only [hrest]

theorem without_foldl_link (companies : List (List Text)) :
    without q (companies.foldl link []) =
      (companies.map (·.filter (· ≠ q))).foldl link [] := by
  rw [foldl_link, foldl_link, ← List.filter_flatten, ← Distinct.filter_eraseDups, without,
    List.filter_map, List.map_map]
  apply List.map_congr_left
  intro package hp
  have hne : package ≠ q := by simpa using (List.mem_filter.mp hp).2
  rw [companions_filter companies hne]
  rfl

end Graph

variable {α : Type} [Add α] [Mul α] [IntCast α] [LE α] [DecidableLE α] (config : Risk.Config α)
variable (cap : Int)

/-- The second report says of everything but the package `q` what the first says, and has the
record of `q` behind the others. -/
structure Report.IsExtension (q : Text) (before after : Report) : Prop where
  packages : ∃ record, after.packages = before.packages ++ [(q, record)]
  metrics : after.metrics = before.metrics
  graph : after.graph.without q = before.graph
  rejections : after.rejections = before.rejections
  filesAnalyzed : after.filesAnalyzed = before.filesAnalyzed

/-- A new dependency disturbs no other. -/
theorem analyze_append_isExtension (hq : q ∉ declared) (hc : ¬ Package.IsCustomary q)
    (sources : List Source) :
    Report.IsExtension q (analyze config cap declared sources)
      (analyze config cap (declared ++ [q]) sources) := by
  have hfiles := extractions_append hq hc sources
  rw [analyze_eq, analyze_eq]
  constructor
  case packages =>
    refine ⟨(recordOf cap (shares (extractions (declared ++ [q]) sources) q)).rate config, ?_⟩
    dsimp only
    rw [List.map_append, List.map_singleton, hfiles]
    congr 1
    apply List.map_congr_left
    intro package hp
    have hne : package ≠ q := fun he ↦ hq (he ▸ hp)
    rw [shares_without _ hne]
  case metrics => dsimp only; rw [hfiles, metricsOf_without]
  case graph =>
    dsimp only
    rw [Graph.without_foldl_link, hfiles, List.map_map, List.map_map]
    congr 1
    exact List.map_congr_left fun f _ ↦ (company_without hq f).symm
  case rejections => rfl
  case filesAnalyzed => dsimp only; rw [hfiles, List.length_map]

theorem analyze_append_isExtension_same_likeness :
    let declared : List Text := ["left-pad"]
    let q : Text := "leftpad"
    let sources : List Source :=
      [⟨"a.js", "import p from 'leftpad';\np.pad('x');\nleftPad.pad('y');\n"⟩]
    q ∉ declared ∧ ¬ Package.IsCustomary q ∧
    Report.IsExtension q (analyze Risk.Config.default 10 declared sources)
      (analyze Risk.Config.default 10 (declared ++ [q]) sources) := by
  intro declared q sources
  have hq : q ∉ declared := by decide
  have hc : ¬ Package.IsCustomary q := by decide
  exact ⟨hq, hc, analyze_append_isExtension Risk.Config.default 10 hq hc sources⟩

end Usage

end PackageAudit
