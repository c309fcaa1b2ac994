import Mathlib.Data.List.Induction
import PackageAudit.Proofs.Keyed
import PackageAudit.Proofs.Syntax.Preorder
import PackageAudit.Proofs.Usage.Sites

namespace PackageAudit.Usage

open Syntax

variable (source : Text) (declared : List Text)

def allPlaces (root : Node) : List Place := preorder (fun _ ↦ false) (.top root)

def allNodes (root : Node) : List Node := (allPlaces root).map (·.node)

def allImports (root : Node) : List Import := (allPlaces root).filterMap (import? source)

def allMemberCalls (root : Node) : List Node := (allNodes root).filter isMemberCall

/-- What the last import that binds a name binds it to: a declared package, or none. -/
def binding? (imports : List Import) (name : Text) : Option (Option Text) :=
  (imports.filter (·.bindings.contains name)).getLast?.map (·.package? declared)

/-- A call belongs to the package to which its root is bound, or, if no import binds the root, to
the one that the root resembles. -/
def Attributed (imports : List Import) (call : Node) (package : Text) : Prop :=
  ∃ name, HasRoot source call name ∧
    (binding? declared imports name = some (some package) ∨
      binding? declared imports name = none ∧
        Package.ofIdentifier? declared name = some package)

def attributed? (imports : List Import) (call : Node) : Option Text :=
  (rootName? source call).bind fun name ↦
    (binding? declared imports name).getD (Package.ofIdentifier? declared name)

/-- The evidence that imports of one package and calls of its members make together. -/
def evidenceOf (imports : List Import) (calls : List Node) : Evidence where
  imports := imports.map (·.statement.text source)
  usages := calls.map (·.text source)
  symbols := Distinct.symbolsOf (imports.flatMap (·.names) ++ calls.map (methodName source))
  lines := imports.map (fun i ↦ (Script.lineAt source i.mention.start : Int)) ++
    calls.map fun call ↦ (Script.lineAt source call.start : Int)
  complexity := calls.length

theorem attributed?_eq_some_iff {imports : List Import} {call : Node} {package : Text} :
    attributed? source declared imports call = some package ↔
      Attributed source declared imports call package := by
  simp only [attributed?, Attributed, Option.bind_eq_some_iff, rootName?_eq_some_iff]
  refine exists_congr fun name ↦ and_congr_right fun _ ↦ ?_
  cases binding? declared imports name <;> simp

instance (imports : List Import) (call : Node) (package : Text) :
    Decidable (Attributed source declared imports call package) :=
  decidable_of_iff _ (attributed?_eq_some_iff source declared)

/-- The packages with evidence, in the order in which it is found: imports come before calls. -/
def evidencePackages (root : Node) : List Text :=
  let imports := allImports source root
  (imports.filterMap (·.package? declared) ++
    (allMemberCalls root).filterMap (attributed? source declared imports)).eraseDups

theorem nodup_evidencePackages (root : Node) : (evidencePackages source declared root).Nodup :=
  Distinct.nodup_eraseDups _

def packageEvidence (root : Node) (package : Text) : Evidence :=
  let imports := allImports source root
  evidenceOf source (imports.filter (·.package? declared = some package))
    ((allMemberCalls root).filter (Attributed source declared imports · package))

def reading (root : Node) : Extraction where
  evidence := (evidencePackages source declared root).map fun package ↦
    (package, packageEvidence source declared root package)
  functions := (allNodes root).countP isFunction
  classes := (allNodes root).countP isClass
  imports := (allImports source root).length
  decisionPoints := (allNodes root).countP isDecision

section Visit

theorem kind_of_import? {p : Place} {i : Import} (h : import? source p = some i) :
    p.node.kind = .importStatement ∨ p.node.kind = .exportStatement ∨
      p.node.kind = .callExpression := by
  unfold import? at h
  split at h
  · rename_i hk; exact .inl hk
  · rename_i hk; exact .inr (.inl hk)
  · rename_i hk; exact .inr (.inr hk)
  · cases h

theorem isMemberCall_of_import? {p : Place} {i : Import} (h : import? source p = some i) :
    isMemberCall p.node = false := by
  have hs : (import? source p).map (·.specifier) = some i.specifier := by rw [h]; rfl
  cases (import?_specifier_eq_some_iff source).mp hs with
  | importStatement hk => simp [isMemberCall, hk]
  | exportStatement hk => simp [isMemberCall, hk]
  | call hk hc hl =>
    simp only [isLoader, Bool.or_eq_true, Bool.and_eq_true, decide_eq_true_eq] at hl
    rcases hl with hl | hl
    · simp [isMemberCall, hc, hl]
    · simp [isMemberCall, hc, hl.1]

theorem countNode_eq_self {n : Node} (x : Extraction)
    (h : n.kind = .importStatement ∨ n.kind = .exportStatement ∨ n.kind = .callExpression) :
    x.countNode n = x := by
  rcases h with h | h | h <;> simp [Extraction.countNode, isFunction, isClass, isDecision, h]

theorem visit_calls (f : Findings) (p : Place) :
    (f.visit source declared p).calls = f.calls ++ [p.node].filter isMemberCall := by
  unfold Findings.visit
  cases hi : import? source p with
  | some i =>
    rw [List.filter_singleton, isMemberCall_of_import? source hi, Bool.cond_false, List.append_nil]
    rfl
  | none => cases hm : isMemberCall p.node <;> simp [hm]

theorem visit_bindings (f : Findings) (p : Place) :
    (f.visit source declared p).bindings = match import? source p with
      | some i => (f.addImport source declared i).bindings
      | none => f.bindings := by
  unfold Findings.visit
  cases import? source p with
  | some i => rfl
  | none => cases isMemberCall p.node <;> rfl

/-- Imports and calls are neither declarations nor decisions, so that the node may be counted in
any case. -/
theorem visit_extraction (f : Findings) (p : Place) :
    (f.visit source declared p).extraction = Extraction.countNode (match import? source p with
      | some i => (f.addImport source declared i).extraction
      | none => f.extraction) p.node := by
  unfold Findings.visit
  cases hi : import? source p with
  | some i => exact (countNode_eq_self _ (kind_of_import? source hi)).symm
  | none =>
    cases hm : isMemberCall p.node with
    | false => rfl
    | true =>
      have hk : p.node.kind = .callExpression := by
        simp only [isMemberCall, Bool.and_eq_true, decide_eq_true_eq] at hm
        exact hm.1
      exact (countNode_eq_self _ (.inr (.inr hk))).symm

theorem countNode_evidence (x : Extraction) (n : Node) :
    (x.countNode n).evidence = x.evidence := by
  unfold Extraction.countNode
  split_ifs <;> rfl

theorem countNode_imports (x : Extraction) (n : Node) : (x.countNode n).imports = x.imports := by
  unfold Extraction.countNode
  split_ifs <;> rfl

theorem countNode_functions (x : Extraction) (n : Node) :
    (x.countNode n).functions = x.functions + if isFunction n then 1 else 0 := by
  unfold Extraction.countNode
  split_ifs <;> simp

theorem countNode_classes (x : Extraction) (n : Node) :
    (x.countNode n).classes = x.classes + if isClass n then 1 else 0 := by
  have hex : isFunction n → isClass n = false := by
    intro h
    simp only [isFunction, Bool.or_eq_true, decide_eq_true_eq] at h
    rcases h with h | h <;> simp [isClass, h]
  unfold Extraction.countNode
  split_ifs <;> simp_all

theorem countNode_decisionPoints (x : Extraction) (n : Node) :
    (x.countNode n).decisionPoints = x.decisionPoints + if isDecision n then 1 else 0 := by
  have hf : isFunction n → isDecision n = false := by
    intro h
    simp only [isFunction, Bool.or_eq_true, decide_eq_true_eq] at h
    rcases h with h | h <;> simp [isDecision, h]
  have hc : isClass n → isDecision n = false := by
    intro h
    simp only [isClass, Bool.or_eq_true, decide_eq_true_eq] at h
    rcases h with h | h <;> simp [isDecision, h]
  unfold Extraction.countNode
  split_ifs <;> simp_all

theorem addImport_evidence (f : Findings) (i : Import) :
    (f.addImport source declared i).extraction.evidence =
      Keyed.amendEach (·.package? declared) (fun i e ↦ e.addImport source i)
        f.extraction.evidence [i] := by
  rw [Keyed.amendEach_cons]
  unfold Findings.addImport
  cases i.package? declared <;> rfl

theorem addImport_counts (f : Findings) (i : Import) :
    (f.addImport source declared i).extraction =
      { f.extraction with
        evidence := (f.addImport source declared i).extraction.evidence
        imports := f.extraction.imports + 1 } := by
  unfold Findings.addImport
  cases i.package? declared <;> rfl

theorem visit_evidence (f : Findings) (p : Place) :
    (f.visit source declared p).extraction.evidence =
      Keyed.amendEach (·.package? declared) (fun i e ↦ e.addImport source i)
        f.extraction.evidence ([p].filterMap (import? source)) := by
  rw [visit_extraction, countNode_evidence]
  cases hi : import? source p with
  | none => rw [List.filterMap_cons_none hi]; rfl
  | some i => rw [List.filterMap_cons_some hi]; exact addImport_evidence source declared f i

theorem visit_imports (f : Findings) (p : Place) :
    (f.visit source declared p).extraction.imports =
      f.extraction.imports + if (import? source p).isSome then 1 else 0 := by
  rw [visit_extraction, countNode_imports]
  cases import? source p with
  | none => simp
  | some i => dsimp only; rw [addImport_counts]; rfl

theorem visit_count {count : Extraction → Int} {counted : Node → Bool}
    (hnode : ∀ x n, count (Extraction.countNode x n) = count x + if counted n then 1 else 0)
    (himport : ∀ f i, count (Findings.addImport source declared f i).extraction =
      count f.extraction) (f : Findings) (p : Place) :
    count (f.visit source declared p).extraction =
      count f.extraction + if counted p.node then 1 else 0 := by
  rw [visit_extraction, hnode]
  cases import? source p with
  | none => rfl
  | some i => dsimp only; rw [himport]

end Visit

section Findings

theorem foldl_visit_calls (places : List Place) (f : Findings) :
    (places.foldl (Findings.visit source declared) f).calls =
      f.calls ++ (places.map (·.node)).filter isMemberCall := by
  induction places generalizing f with
  | nil => rw [List.map_nil, List.filter_nil, List.append_nil]; rfl
  | cons p places ih =>
    rw [List.foldl_cons, ih, visit_calls, List.append_assoc, ← List.filter_append]
    rfl

theorem foldl_visit_evidence (places : List Place) (f : Findings) :
    (places.foldl (Findings.visit source declared) f).extraction.evidence =
      Keyed.amendEach (·.package? declared) (fun i e ↦ e.addImport source i)
        f.extraction.evidence (places.filterMap (import? source)) := by
  induction places generalizing f with
  | nil => rfl
  | cons p places ih =>
    have hsplit : (p :: places).filterMap (import? source) =
        [p].filterMap (import? source) ++ places.filterMap (import? source) :=
      List.filterMap_append (l := [p])
    rw [List.foldl_cons, ih, visit_evidence, hsplit, Keyed.amendEach_append]

theorem foldl_visit_count {count : Extraction → Int} {counted : Place → Bool}
    (hvisit : ∀ f p, count (Findings.visit source declared f p).extraction =
      count f.extraction + if counted p then 1 else 0) (places : List Place) (f : Findings) :
    count (places.foldl (Findings.visit source declared) f).extraction =
      count f.extraction + places.countP counted := by
  induction places generalizing f with
  | nil => simp
  | cons p places ih =>
    rw [List.foldl_cons, ih, hvisit, List.countP_cons]
    push_cast
    cases counted p <;> simp; omega

theorem insert_all_get? {α : Type} (b : Keyed α) (names : List Text) (value : α) (name : Text) :
    (names.foldl (fun b name ↦ b.insert name value) b).get? name =
      if name ∈ names then some value else b.get? name := by
  induction names generalizing b with
  | nil => simp
  | cons n names ih =>
    rw [List.foldl_cons, ih, Keyed.get?_insert]
    by_cases hn : name = n <;> by_cases hm : name ∈ names <;> simp [hn, hm]

theorem binding?_concat (imports : List Import) (i : Import) (name : Text) :
    binding? declared (imports ++ [i]) name =
      if name ∈ i.bindings then some (i.package? declared) else binding? declared imports name := by
  unfold binding?
  rw [List.filter_append, List.filter_singleton]
  by_cases h : name ∈ i.bindings <;> simp [h]

/-- The table of bindings answers with the last import that binds the name. -/
theorem foldl_visit_bindings (places : List Place) (name : Text) :
    (places.foldl (Findings.visit source declared) {}).bindings.get? name =
      binding? declared (places.filterMap (import? source)) name := by
  induction places using List.reverseRecOn with
  | nil => rfl
  | append_singleton places p ih =>
    rw [List.foldl_append, List.foldl_cons, List.foldl_nil, visit_bindings,
      List.filterMap_append]
    cases hi : import? source p with
    | none => rw [List.filterMap_cons_none hi, List.filterMap_nil, List.append_nil, ih]
    | some i =>
      rw [List.filterMap_cons_some hi, List.filterMap_nil, binding?_concat, ← ih]
      exact insert_all_get? _ i.bindings (i.package? declared) name

end Findings

section Extract

theorem addImport_evidenceOf (imports : List Import) (i : Import) :
    (evidenceOf source imports []).addImport source i = evidenceOf source (imports ++ [i]) [] := by
  simp [Evidence.addImport, evidenceOf, Distinct.addSymbols_symbolsOf]

theorem foldl_addImport (imports : List Import) :
    imports.foldl (fun e i ↦ Evidence.addImport source e i) default =
      evidenceOf source imports [] := by
  induction imports using List.reverseRecOn with
  | nil => rfl
  | append_singleton imports i ih =>
    rw [List.foldl_append, ih, List.foldl_cons, List.foldl_nil, addImport_evidenceOf]

theorem addCall_evidenceOf (imports : List Import) (calls : List Node) (call : Node) :
    (evidenceOf source imports calls).addCall source call =
      evidenceOf source imports (calls ++ [call]) := by
  simp [Evidence.addCall, evidenceOf, Distinct.addSymbol_symbolsOf]

theorem foldl_addCall (imports : List Import) (calls : List Node) :
    calls.foldl (fun e call ↦ Evidence.addCall source e call) (evidenceOf source imports []) =
      evidenceOf source imports calls := by
  induction calls using List.reverseRecOn with
  | nil => rfl
  | append_singleton calls call ih =>
    rw [List.foldl_append, ih, List.foldl_cons, List.foldl_nil, addCall_evidenceOf]

variable (bindings : Keyed (Option Text))

theorem addCall_eq (x : Extraction) (call : Node) :
    x.addCall source declared bindings call =
      { x with evidence := Keyed.amendEach (callPackage? source declared bindings)
                (fun call e ↦ e.addCall source call) x.evidence [call] } := by
  rw [Keyed.amendEach_cons]
  unfold Extraction.addCall
  cases callPackage? source declared bindings call <;> rfl

theorem foldl_extraction_addCall (calls : List Node) (x : Extraction) :
    calls.foldl (Extraction.addCall source declared bindings) x =
      { x with evidence := Keyed.amendEach (callPackage? source declared bindings)
                (fun call e ↦ e.addCall source call) x.evidence calls } := by
  induction calls generalizing x with
  | nil => rfl
  | cons call calls ih =>
    have hsplit : call :: calls = [call] ++ calls := rfl
    rw [List.foldl_cons, ih, addCall_eq, hsplit, Keyed.amendEach_append]

theorem callPackage?_eq_attributed? {imports : List Import}
    (h : ∀ name, bindings.get? name = binding? declared imports name) :
    callPackage? source declared bindings = attributed? source declared imports := by
  funext call
  unfold callPackage? attributed?
  cases rootName? source call with
  | none => rfl
  | some name =>
    simp only [Option.bind_eq_bind, Option.bind_some, h]
    cases binding? declared imports name <;> rfl

theorem findings_bindings (root : Node) (name : Text) :
    (findings source declared root).bindings.get? name =
      binding? declared (allImports source root) name := by
  rw [findings, places_eq_preorder]
  exact foldl_visit_bindings source declared _ name

theorem findings_calls (root : Node) :
    (findings source declared root).calls = allMemberCalls root := by
  rw [findings, places_eq_preorder, foldl_visit_calls]
  rfl

theorem findings_evidence (root : Node) :
    (findings source declared root).extraction.evidence =
      Keyed.amendEach (·.package? declared) (fun i e ↦ e.addImport source i) []
        (allImports source root) := by
  rw [findings, places_eq_preorder, foldl_visit_evidence]
  rfl

theorem findings_count {count : Extraction → Int} {counted : Place → Bool}
    (hvisit : ∀ f p, count (Findings.visit source declared f p).extraction =
      count f.extraction + if counted p then 1 else 0) (hzero : count {} = 0) (root : Node) :
    count (findings source declared root).extraction = (allPlaces root).countP counted := by
  rw [findings, places_eq_preorder, foldl_visit_count source declared hvisit, hzero, Int.zero_add]
  rfl

/-- The evidence in the order in which the walk and the loop over the calls find it. -/
theorem extract_evidence (root : Node) :
    (extract source declared root).evidence =
      Keyed.amendEach (attributed? source declared (allImports source root))
        (fun call e ↦ e.addCall source call)
        (Keyed.amendEach (·.package? declared) (fun i e ↦ e.addImport source i) []
          (allImports source root))
        (allMemberCalls root) := by
  rw [extract, foldl_extraction_addCall, findings_calls, findings_evidence,
    callPackage?_eq_attributed? source declared _ (findings_bindings source declared root)]

theorem extract_evidence_keys (root : Node) :
    (extract source declared root).evidence.keys = evidencePackages source declared root := by
  have hnil : (Keyed.keys ([] : Keyed Evidence)).Nodup := List.nodup_nil
  rw [extract_evidence, Keyed.keys_amendEach _ _ _ _ (Keyed.nodup_keys_amendEach _ _ _ _ hnil),
    Keyed.keys_amendEach _ _ _ _ hnil, Distinct.eraseDups_eraseDups_append]
  rfl

theorem extract_evidence_getD (root : Node) (package : Text) :
    ((extract source declared root).evidence.get? package).getD default =
      packageEvidence source declared root package := by
  have hcalls : (allMemberCalls root).filter
      (attributed? source declared (allImports source root) · = some package) =
      (allMemberCalls root).filter
        (Attributed source declared (allImports source root) · package) :=
    List.filter_congr fun _ _ ↦ decide_eq_decide.mpr (attributed?_eq_some_iff source declared)
  rw [extract_evidence, Keyed.getD_amendEach, Keyed.getD_amendEach, Keyed.get?_nil,
    Option.getD_none, foldl_addImport, foldl_addCall, hcalls]
  rfl

theorem extract_eq_reading (root : Node) :
    extract source declared root = reading source declared root := by
  have hkeys := extract_evidence_keys source declared root
  have hnodup : (extract source declared root).evidence.keys.Nodup :=
    hkeys ▸ nodup_evidencePackages source declared root
  have hevidence := Keyed.eq_map_keys hnodup
  simp only [hkeys, extract_evidence_getD] at hevidence
  have hcounts : extract source declared root =
      { (findings source declared root).extraction with
        evidence := (extract source declared root).evidence } := by
    rw [extract, foldl_extraction_addCall]
  have hfunctions := findings_count source declared (visit_count source declared
    countNode_functions fun f i ↦ by rw [addImport_counts]) rfl root
  have hclasses := findings_count source declared (visit_count source declared
    countNode_classes fun f i ↦ by rw [addImport_counts]) rfl root
  have himports := findings_count source declared (visit_imports source declared) rfl root
  have hdecisions := findings_count source declared (visit_count source declared
    countNode_decisionPoints fun f i ↦ by rw [addImport_counts]) rfl root
  rw [hcounts, hevidence]
  dsimp only
  rw [hfunctions, hclasses, himports, hdecisions]
  simp only [reading, allNodes, allImports, List.countP_map, List.length_filterMap_eq_countP]
  rfl

end Extract

end PackageAudit.Usage
