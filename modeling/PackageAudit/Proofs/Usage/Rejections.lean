import PackageAudit.Proofs.Usage.Report

namespace PackageAudit.Usage

open Script (Rejection)

section Showing

variable {m : Type → Type} [Monad m] [LawfulMonad m] (onFile : Outcome → m Unit) (cap : Int)

theorem showOutcome_bind {β : Type} (state : Ledger × List Rejection) (o : Outcome)
    (next : Ledger × List Rejection → m β) :
    (Ledger.showOutcome onFile cap state o >>= next) =
      (onFile o >>= fun _ ↦ next (state.1.addOutcome cap o, state.2 ++ o.rejection?.toList)) := by
  simp only [Ledger.showOutcome, bind_assoc, pure_bind]

/-- What is recorded does not depend on what the caller does with an outcome. -/
theorem foldlM_showOutcome (outcomes : List Outcome) (l : Ledger) (rejections : List Rejection) :
    outcomes.foldlM (Ledger.showOutcome onFile cap) (l, rejections) =
      (do forM outcomes onFile
          return (outcomes.foldl (Ledger.addOutcome cap) l,
            rejections ++ outcomes.filterMap (·.rejection?))) := by
  induction outcomes generalizing l rejections with
  | nil => simp
  | cons o outcomes ih =>
    have hsplit : (o :: outcomes).filterMap (·.rejection?) =
        o.rejection?.toList ++ outcomes.filterMap (·.rejection?) := by
      cases h : o.rejection? <;> simp [h]
    rw [List.foldlM_cons, showOutcome_bind, List.forM_cons, bind_assoc, hsplit]
    simp only [ih, List.append_assoc, List.foldl_cons]

variable {α : Type} [Add α] [Mul α] [IntCast α] [LE α] [DecidableLE α] (config : Risk.Config α)
variable (declared : List Text)

theorem analyzeShowing_eq (sources : List Source) :
    analyzeShowing onFile config cap declared sources =
      (do forM sources fun s ↦ onFile (outcome declared s)
          return analyze config cap declared sources) := by
  have hforM : forM (sources.map (outcome declared)) onFile =
      forM sources fun s ↦ onFile (outcome declared s) := List.forM_map
  rw [analyzeShowing, foldlM_showOutcome, hforM, bind_assoc]
  simp only [pure_bind, List.nil_append]
  rfl

end Showing

def isReadable (s : Source) : Bool := (Script.parse s).isOk

theorem parse_eq_error {s : Source} {r : Rejection} (h : Script.parse s = .error r) :
    r.file = s.name ∧ r.dialect = s.dialect := by
  unfold Script.parse at h
  split at h
  · cases h
    exact ⟨rfl, rfl⟩
  · dsimp only at h
    split at h
    · cases h
    · cases h
      exact ⟨rfl, rfl⟩

structure IsRejectionOf (s : Source) (r : Rejection) : Prop where
  parse_eq : Script.parse s = .error r
  file_eq : r.file = s.name
  dialect_eq : r.dialect = s.dialect

theorem rejections_forall₂ (sources : List Source) :
    List.Forall₂ IsRejectionOf (sources.filter (!isReadable ·)) (rejections sources) := by
  induction sources with
  | nil => exact .nil
  | cons s sources ih =>
    cases h : Script.parse s with
    | error r =>
      have hreadable : isReadable s = false := by rw [isReadable, h]; rfl
      have hs : IsRejectionOf s r := ⟨h, (parse_eq_error h).1, (parse_eq_error h).2⟩
      simpa [rejections, hreadable, h] using List.Forall₂.cons hs ih
    | ok root =>
      have hreadable : isReadable s = true := by rw [isReadable, h]; rfl
      simpa [rejections, hreadable, h] using ih

variable (declared : List Text)

theorem extractions_filter_isReadable (sources : List Source) :
    extractions declared (sources.filter isReadable) = extractions declared sources := by
  unfold extractions
  rw [List.filterMap_filter]
  apply List.filterMap_congr
  intro s _
  unfold isReadable
  cases Script.parse s <;> rfl

theorem length_extractions (sources : List Source) :
    (extractions declared sources).length = (sources.filter isReadable).length := by
  unfold extractions
  rw [List.length_filterMap_eq_countP, List.countP_eq_length_filter]
  congr 1
  apply List.filter_congr
  intro s _
  unfold isReadable
  cases Script.parse s <;> rfl

variable {m : Type → Type} [Monad m] [LawfulMonad m] (onFile : Outcome → m Unit) (cap : Int)
variable {α : Type} [Add α] [Mul α] [IntCast α] [LE α] [DecidableLE α] (config : Risk.Config α)

/-- The report has an entry for each unreadable file, and says of the others what the report
`rest` says. -/
structure Report.SetsApart (sources : List Source) (report rest : Report) : Prop where
  rejections : List.Forall₂ IsRejectionOf (sources.filter (!isReadable ·)) report.rejections
  accounted : report.filesAnalyzed + report.rejections.length = sources.length
  packages : report.packages = rest.packages
  metrics : report.metrics = rest.metrics
  graph : report.graph = rest.graph
  filesAnalyzed : report.filesAnalyzed = rest.filesAnalyzed

theorem analyze_setsApart (sources : List Source) :
    (analyze config cap declared sources).SetsApart sources
      (analyze config cap declared (sources.filter isReadable)) := by
  have hfiles := extractions_filter_isReadable declared sources
  have hrejections := rejections_forall₂ sources
  rw [analyze_eq, analyze_eq, hfiles]
  constructor
  case rejections => exact hrejections
  case accounted =>
    have hlength := hrejections.length_eq
    have hall := List.length_eq_length_filter_add (l := sources) isReadable
    dsimp only
    rw [length_extractions, ← hlength]
    exact hall.symm
  all_goals rfl

/-- Unreadable files leave no trace but their entries, and the caller is shown every file once, in
the order of the batch, before the report is there. -/
theorem analyze_isolates_rejected (sources : List Source) :
    (analyze config cap declared sources).SetsApart sources
      (analyze config cap declared (sources.filter isReadable)) ∧
    analyzeShowing onFile config cap declared sources =
      (do forM sources fun s ↦ onFile (outcome declared s)
          return analyze config cap declared sources) :=
  ⟨analyze_setsApart declared cap config sources,
    analyzeShowing_eq onFile cap config declared sources⟩

theorem analyze_isolates_rejected_surrogate :
    let broken : Source := ⟨"a.js", [.surrogate 0]⟩
    let sources : List Source := [broken, ⟨"b.js", "_.map(xs, f);\n"⟩]
    let onFile : Outcome → StateM (List Outcome) Unit := fun o ↦ modify (· ++ [o])
    LawfulMonad (StateM (List Outcome)) ∧ isReadable broken = false ∧
    (analyze Risk.Config.default 10 ["lodash"] sources).SetsApart sources
      (analyze Risk.Config.default 10 ["lodash"] (sources.filter isReadable)) ∧
    analyzeShowing onFile Risk.Config.default 10 ["lodash"] sources =
      (do forM sources fun s ↦ onFile (outcome ["lodash"] s)
          return analyze Risk.Config.default 10 ["lodash"] sources) := by
  intro broken sources onFile
  have hm : LawfulMonad (StateM (List Outcome)) := inferInstance
  have hbroken : isReadable broken = false := rfl
  have h := analyze_isolates_rejected ["lodash"] onFile 10 Risk.Config.default sources
  exact ⟨hm, hbroken, h.1, h.2⟩

end PackageAudit.Usage
