import Mathlib.Algebra.BigOperators.Group.List.Basic
import Mathlib.Algebra.Order.Ring.Int
import PackageAudit.Proofs.Keyed
import PackageAudit.Usage.Ledger

namespace PackageAudit.Usage

variable (cap : Int) (declared : List Text)

/-- The evidence for a package in the files of a batch, each piece with the name of its file. -/
def shares (files : List (Text × Extraction)) (package : Text) : List (Text × Evidence) :=
  files.flatMap fun f ↦ (f.2.evidence.filter (·.1 = package)).map fun e ↦ (f.1, e.2)

def recordOf (shares : List (Text × Evidence)) : Record where
  imports := shares.flatMap (·.2.imports)
  usages := shares.flatMap (·.2.usages)
  symbols := (shares.flatMap (·.2.symbols)).eraseDups
  complexity := (shares.map (·.2.complexity)).sum
  files := shares.map fun s ↦ ⟨s.1, s.2.imports, upTo cap s.2.usages, s.2.lines⟩

theorem recordOf_concat (shares : List (Text × Evidence)) (s : Text × Evidence) :
    recordOf cap (shares ++ [s]) = (recordOf cap shares).merge cap s.1 s.2 := by
  simp [recordOf, Record.merge, Distinct.union_eraseDups]

theorem foldl_merge (shares : List (Text × Evidence)) :
    shares.foldl (fun r s ↦ Record.merge cap r s.1 s.2) {} = recordOf cap shares := by
  induction shares using List.reverseRecOn with
  | nil => rfl
  | append_singleton shares s ih =>
    rw [List.foldl_append, ih, List.foldl_cons, List.foldl_nil, recordOf_concat]

theorem addEvidence_map_pair (file : Text) (records : Text → Record) (e : Text × Evidence) :
    Ledger.addEvidence cap file (declared.map fun p ↦ (p, records p)) e =
      declared.map fun p ↦ (p, if e.1 = p then (records p).merge cap file e.2 else records p) := by
  unfold Ledger.addEvidence
  rw [Keyed.get?_map_pair]
  by_cases hd : e.1 ∈ declared
  · rw [if_pos hd]
    dsimp only
    rw [Keyed.insert_map_pair declared records hd]
    apply List.map_congr_left
    intro p _
    by_cases he : e.1 = p <;> simp [he]
  · rw [if_neg hd]
    apply List.map_congr_left
    intro p hp
    have he : e.1 ≠ p := fun h ↦ hd (h ▸ hp)
    rw [if_neg he]

theorem foldl_addEvidence (file : Text) (evidence : Keyed Evidence) (records : Text → Record) :
    evidence.foldl (Ledger.addEvidence cap file) (declared.map fun p ↦ (p, records p)) =
      declared.map fun p ↦ (p, ((evidence.filter (·.1 = p)).map fun e ↦ (file, e.2)).foldl
        (fun r s ↦ Record.merge cap r s.1 s.2) (records p)) := by
  induction evidence generalizing records with
  | nil => rfl
  | cons e evidence ih =>
    rw [List.foldl_cons, addEvidence_map_pair, ih]
    apply List.map_congr_left
    intro p _
    by_cases he : e.1 = p <;> simp [he]

theorem ofFiles_concat (files : List (Text × Extraction)) (f : Text × Extraction) :
    Ledger.ofFiles cap declared (files ++ [f]) =
      (Ledger.ofFiles cap declared files).addFile cap f.1 f.2 := by
  rw [Ledger.ofFiles, List.foldl_append]
  rfl

/-- The records are those of the declared packages in their order, each made of its shares. -/
theorem ofFiles_records (files : List (Text × Extraction)) :
    (Ledger.ofFiles cap declared files).records =
      declared.map fun p ↦ (p, recordOf cap (shares files p)) := by
  induction files using List.reverseRecOn with
  | nil => rfl
  | append_singleton files f ih =>
    rw [ofFiles_concat, Ledger.addFile]
    dsimp only
    rw [ih, foldl_addEvidence]
    apply List.map_congr_left
    intro p _
    have hshares : shares (files ++ [f]) p =
        shares files p ++ (f.2.evidence.filter (·.1 = p)).map fun e ↦ (f.1, e.2) := by
      rw [shares, List.flatMap_append, List.flatMap_singleton]
      rfl
    rw [hshares, ← foldl_merge, ← foldl_merge, List.foldl_append]

theorem ofFiles_contains (files : List (Text × Extraction)) (package : Text) :
    (Ledger.ofFiles cap declared files).records.contains package = declared.contains package := by
  rw [ofFiles_records, Bool.eq_iff_iff, Keyed.contains_iff, List.contains_iff_mem]
  simp [Keyed.keys]

def metricsOf (files : List (Text × Extraction)) : Metrics where
  functions := (files.map (·.2.functions)).sum
  classes := (files.map (·.2.classes)).sum
  imports := (files.map (·.2.imports)).sum
  complexity := (files.map fun f ↦ f.2.decisionPoints + 1).sum

theorem ofFiles_metrics (files : List (Text × Extraction)) :
    (Ledger.ofFiles cap declared files).metrics = metricsOf files := by
  induction files using List.reverseRecOn with
  | nil => rfl
  | append_singleton files f ih =>
    rw [ofFiles_concat, Ledger.addFile]
    dsimp only
    rw [ih]
    simp [Metrics.merge, metricsOf, Int.add_assoc]

theorem ofFiles_filesAdded (files : List (Text × Extraction)) :
    (Ledger.ofFiles cap declared files).filesAdded = files.length := by
  induction files using List.reverseRecOn with
  | nil => rfl
  | append_singleton files f ih =>
    rw [ofFiles_concat, Ledger.addFile, List.length_append]
    exact congrArg (· + 1) ih

/-- The declared packages with evidence in a file, in the order of the evidence. -/
def company (f : Text × Extraction) : List Text := f.2.evidence.keys.filter declared.contains

theorem ofFiles_graph (files : List (Text × Extraction)) :
    (Ledger.ofFiles cap declared files).graph =
      (files.map (company declared)).foldl Graph.link [] := by
  induction files using List.reverseRecOn with
  | nil => rfl
  | append_singleton files f ih =>
    have hcontains : (Ledger.ofFiles cap declared files).records.contains = declared.contains :=
      funext (ofFiles_contains cap declared files)
    rw [ofFiles_concat, Ledger.addFile]
    dsimp only
    rw [hcontains, ih, List.map_append, List.foldl_append]
    rfl

end PackageAudit.Usage
