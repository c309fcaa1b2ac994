import PackageAudit.Proofs.Lists
import PackageAudit.Proofs.Usage.Uncommented

namespace PackageAudit.Usage

open Syntax

/-- The evidence is the same up to the recorded texts. -/
structure Evidence.Agrees (a b : Evidence) : Prop where
  imports : a.imports.length = b.imports.length
  usages : a.usages.length = b.usages.length
  symbols : a.symbols = b.symbols
  lines : a.lines = b.lines
  complexity : a.complexity = b.complexity

/-- The extractions count the same imports and have agreeing evidence for the same packages. -/
structure Extraction.Agrees (x y : Extraction) : Prop where
  imports : x.imports = y.imports
  keys : x.evidence.keys = y.evidence.keys
  evidence : ∀ package, ((x.evidence.get? package).getD default).Agrees
    ((y.evidence.get? package).getD default)

variable (source : Text) (declared : List Text)

/-- No comment hides an import, and a name that comments hide gives its calls to no package. -/
structure CommentsHideNothing (root : Node) : Prop where
  modules : ∀ call ∈ allNodes root, ¬ HidesModule source call
  roots : ∀ call ∈ allMemberCalls root, ∀ name, HidesRoot source call name →
    (binding? declared (allImports source root) name).getD
      (Package.ofIdentifier? declared name) = none

section Places

variable {root : Node} (hroot : root.isComment = false) (h : root.hasPlainComments = true)

include h

theorem isSound_of_mem_allPlaces {p : Place} (hp : p ∈ allPlaces root) : p.IsSound :=
  isSound_of_mem_preorder (.top h) hp

theorem hasPlainComments_of_mem_allNodes {n : Node} (hn : n ∈ allNodes root) :
    n.hasPlainComments = true := by
  obtain ⟨p, hp, rfl⟩ := List.mem_map.mp hn
  exact (isSound_of_mem_allPlaces h hp).hasPlainComments

theorem hasPlainComments_of_mem_allMemberCalls {call : Node} (hc : call ∈ allMemberCalls root) :
    call.hasPlainComments = true :=
  hasPlainComments_of_mem_allNodes h (List.mem_of_mem_filter hc)

include hroot

theorem allPlaces_withoutComments :
    allPlaces root.withoutComments =
      ((allPlaces root).filter (!·.node.isComment)).map Place.withoutComments :=
  preorder_withoutComments (.top h) hroot

theorem filter_allNodes_withoutComments (holds : Node → Bool)
    (hcomment : ∀ n, n.isComment = true → holds n = false)
    (hkept : ∀ n, n.hasPlainComments = true → holds n.withoutComments = holds n) :
    (allNodes root.withoutComments).filter holds =
      ((allNodes root).filter holds).map Node.withoutComments := by
  have hfilter : ∀ n ∈ allNodes root, (holds n.withoutComments && !n.isComment) = holds n := by
    intro n hn
    rw [hkept n (hasPlainComments_of_mem_allNodes h hn)]
    cases hc : n.isComment with
    | false => simp
    | true => simp [hcomment n hc]
  have hnodes : allNodes root.withoutComments =
      ((allNodes root).filter (!·.isComment)).map Node.withoutComments := by
    rw [allNodes, allPlaces_withoutComments hroot h, allNodes, List.filter_map, List.map_map,
      List.map_map]
    rfl
  rw [hnodes, List.filter_map, List.filter_filter]
  exact congrArg _ (List.filter_congr hfilter)

theorem countP_allNodes_withoutComments (holds : Node → Bool)
    (hcomment : ∀ n, n.isComment = true → holds n = false)
    (hkept : ∀ n, n.hasPlainComments = true → holds n.withoutComments = holds n) :
    (allNodes root.withoutComments).countP holds = (allNodes root).countP holds := by
  rw [List.countP_eq_length_filter, List.countP_eq_length_filter,
    filter_allNodes_withoutComments hroot h holds hcomment hkept, List.length_map]

theorem allMemberCalls_withoutComments :
    allMemberCalls root.withoutComments = (allMemberCalls root).map Node.withoutComments := by
  apply filter_allNodes_withoutComments hroot h isMemberCall
  · intro n hc
    simp [isMemberCall, Node.kind_of_isComment hc]
  · intro n hn
    simp [isMemberCall, Node.child?_withoutComments hn, Option.any_map]

end Places

section Bindings

def bindingsOf (imports : List Import) : Keyed (Option Text) :=
  imports.foldl (fun b i ↦ i.bindings.foldl (fun b name ↦ b.insert name (i.package? declared)) b) []

theorem foldl_visit_bindings_eq (places : List Place) :
    (places.foldl (Findings.visit source declared) {}).bindings =
      bindingsOf declared (places.filterMap (import? source)) := by
  induction places using List.reverseRecOn with
  | nil => rfl
  | append_singleton places p ih =>
    rw [List.foldl_append, List.foldl_cons, List.foldl_nil, visit_bindings,
      List.filterMap_append]
    cases hi : import? source p with
    | none => rw [List.filterMap_cons_none hi, List.filterMap_nil, List.append_nil, ih]
    | some i =>
      rw [List.filterMap_cons_some hi, List.filterMap_nil, bindingsOf, List.foldl_append,
        ← bindingsOf, ← ih]
      rfl

theorem findings_bindings_eq (root : Node) :
    (findings source declared root).bindings = bindingsOf declared (allImports source root) := by
  rw [findings, places_eq_preorder]
  exact foldl_visit_bindings_eq source declared _

end Bindings

section Results

variable {source : Text} {declared : List Text} {root : Node}
variable (hroot : root.isComment = false) (h : root.hasPlainComments = true)

theorem import?_of_isComment {p : Place} (hp : p.node.isComment = true) :
    (import? source p) = none := by
  simp [import?, Node.kind_of_isComment hp]

include h

theorem isKept_of_mem {p : Place} (hp : p ∈ (allPlaces root).filter (!·.node.isComment)) :
    IsKept p := by
  obtain ⟨hmem, hkept⟩ := List.mem_filter.mp hp
  exact ⟨isSound_of_mem_allPlaces h hmem, by simpa using hkept⟩

include hroot

theorem allImports_withoutComments (hmodules : ∀ call ∈ allNodes root, ¬ HidesModule source call) :
    allImports source root.withoutComments =
      (allImports source root).map Import.withoutComments := by
  have hplace : ∀ p ∈ allPlaces root,
      (if !p.node.isComment then import? source p.withoutComments else none) =
        (import? source p).map Import.withoutComments := by
    intro p hp
    cases hc : p.node.isComment with
    | true => rw [import?_of_isComment hc]; rfl
    | false =>
      have hkept : IsKept p := ⟨isSound_of_mem_allPlaces h hp, hc⟩
      exact (import?_withoutComments source hkept
        (hmodules p.node (List.mem_map_of_mem hp))).symm
  unfold allImports
  rw [allPlaces_withoutComments hroot h, List.filterMap_map, List.filterMap_filter,
    List.map_filterMap]
  exact List.filterMap_congr hplace

omit h hroot in
theorem isDecision_withoutComments {n : Node} (hn : n.hasPlainComments = true) :
    isDecision n.withoutComments = isDecision n := by
  have hoperator : (fun c : Node ↦ isDecisionOperator c.withoutComments) = isDecisionOperator :=
    funext fun c ↦ by simp [isDecisionOperator]
  unfold isDecision
  rw [Node.withoutComments_kind, Node.child?_withoutComments hn, Option.any_map, hoperator]

theorem evidencePackages_withoutComments (hhides : CommentsHideNothing source declared root) :
    evidencePackages source declared root.withoutComments =
      evidencePackages source declared root := by
  have hcalls : ((allMemberCalls root).map Node.withoutComments).filterMap
      (attributed? source declared ((allImports source root).map Import.withoutComments)) =
      (allMemberCalls root).filterMap (attributed? source declared (allImports source root)) := by
    rw [List.filterMap_map]
    apply List.filterMap_congr
    intro call hc
    exact attributed?_withoutComments source declared
      (hasPlainComments_of_mem_allMemberCalls h hc) (hhides.roots call hc)
  unfold evidencePackages
  dsimp only
  rw [allImports_withoutComments hroot h hhides.modules, allMemberCalls_withoutComments hroot h,
    hcalls, List.filterMap_map]
  rfl

theorem packageEvidence_withoutComments (hhides : CommentsHideNothing source declared root)
    (package : Text) :
    packageEvidence source declared root.withoutComments package =
      packageEvidence source declared root package := by
  have himports : ((allImports source root).map Import.withoutComments).filter
      (·.package? declared = some package) =
      ((allImports source root).filter (·.package? declared = some package)).map
        Import.withoutComments := List.filter_map
  have hcalls : ((allMemberCalls root).map Node.withoutComments).filter
      (Attributed source declared ((allImports source root).map Import.withoutComments) ·
        package) =
      ((allMemberCalls root).filter
        (Attributed source declared (allImports source root) · package)).map
          Node.withoutComments := by
    rw [List.filter_map]
    apply congrArg
    apply List.filter_congr
    intro call hc
    have heq := attributed?_withoutComments source declared
      (hasPlainComments_of_mem_allMemberCalls h hc) (hhides.roots call hc)
    apply decide_eq_decide.mpr
    rw [← attributed?_eq_some_iff, ← attributed?_eq_some_iff, heq]
  unfold packageEvidence
  dsimp only
  rw [allImports_withoutComments hroot h hhides.modules, allMemberCalls_withoutComments hroot h,
    himports, hcalls]
  apply evidenceOf_withoutComments
  intro call hc
  exact hasPlainComments_of_mem_allMemberCalls h (List.mem_of_mem_filter hc)

theorem extract_withoutComments (hhides : CommentsHideNothing source declared root) :
    extract source declared root.withoutComments = extract source declared root := by
  have hfunctions := countP_allNodes_withoutComments hroot h isFunction
    (fun n hc ↦ by simp [isFunction, Node.kind_of_isComment hc]) (fun n _ ↦ by simp [isFunction])
  have hclasses := countP_allNodes_withoutComments hroot h isClass
    (fun n hc ↦ by simp [isClass, Node.kind_of_isComment hc]) (fun n _ ↦ by simp [isClass])
  have hdecisions := countP_allNodes_withoutComments hroot h isDecision
    (fun n hc ↦ by simp [isDecision, Node.kind_of_isComment hc])
    (fun n hn ↦ isDecision_withoutComments hn)
  have himports : (allImports source root.withoutComments).length =
      (allImports source root).length := by
    rw [allImports_withoutComments hroot h hhides.modules, List.length_map]
  have hevidence : packageEvidence source declared root.withoutComments =
      packageEvidence source declared root :=
    funext (packageEvidence_withoutComments hroot h hhides)
  rw [extract_eq_reading, extract_eq_reading]
  unfold reading
  rw [evidencePackages_withoutComments hroot h hhides, hevidence, hfunctions, hclasses, hdecisions,
    himports]

/-- The trees give the same count of imports only if no comment hides one. -/
theorem modules_of_length_eq (heq : (allImports source root.withoutComments).length =
    (allImports source root).length) : ∀ call ∈ allNodes root, ¬ HidesModule source call := by
  have hstripped : (allImports source root.withoutComments).length =
      ((allPlaces root).filter (!·.node.isComment)).countP
        fun p ↦ (import? source p.withoutComments).isSome := by
    unfold allImports
    rw [allPlaces_withoutComments hroot h, List.filterMap_map, List.length_filterMap_eq_countP]
    rfl
  have hkept : (allImports source root).length =
      ((allPlaces root).filter (!·.node.isComment)).countP fun p ↦ (import? source p).isSome := by
    unfold allImports
    rw [List.length_filterMap_eq_countP, List.countP_filter]
    apply List.countP_congr
    intro p _
    cases hc : p.node.isComment with
    | false => simp
    | true => simp [import?_of_isComment hc]
  rw [hstripped, hkept] at heq
  have hall := Lists.of_countP_eq (fun p hp hsome ↦ ?_) heq
  · intro call hcall hhides
    obtain ⟨p, hp, rfl⟩ := List.mem_map.mp hcall
    have hcomment : p.node.isComment = false := by simp [Node.isComment, hhides.kind]
    have hkept : p ∈ (allPlaces root).filter (!·.node.isComment) :=
      List.mem_filter.mpr ⟨hp, by simp [hcomment]⟩
    obtain ⟨hnone, hsome⟩ := import?_of_hidesModule source (isKept_of_mem h hkept) hhides
    rw [hall p hkept hsome] at hnone
    cases hnone
  · by_cases hhides : HidesModule source p.node
    · exact (import?_of_hidesModule source (isKept_of_mem h hp) hhides).2
    · rw [← import?_withoutComments source (isKept_of_mem h hp) hhides, Option.isSome_map, hsome]

theorem roots_of_length_eq (hmodules : ∀ call ∈ allNodes root, ¬ HidesModule source call)
    (heq : ∀ package, (packageEvidence source declared root.withoutComments package).usages.length =
      (packageEvidence source declared root package).usages.length) :
    ∀ call ∈ allMemberCalls root, ∀ name, HidesRoot source call name →
      (binding? declared (allImports source root) name).getD
        (Package.ofIdentifier? declared name) = none := by
  intro call hcall name hhides
  rw [Option.eq_none_iff_forall_ne_some]
  intro package hpackage
  have hcount := heq package
  simp only [packageEvidence, evidenceOf, List.length_map] at hcount
  rw [allImports_withoutComments hroot h hmodules, allMemberCalls_withoutComments hroot h,
    List.filter_map, List.length_map, ← List.countP_eq_length_filter,
    ← List.countP_eq_length_filter] at hcount
  have hplain := hasPlainComments_of_mem_allMemberCalls h hcall
  have hall := Lists.of_countP_eq (fun c hc hattributed ↦ ?_) hcount
  · have hpast := (hasRoot_withoutComments_iff source hplain).mpr hhides.past
    have hattributed : Attributed source declared
        ((allImports source root).map Import.withoutComments) call.withoutComments package := by
      rw [← attributed?_eq_some_iff, attributed?, (rootName?_eq_some_iff source).mpr hpast,
        Option.bind_some, binding?_withoutComments, hpackage]
    have hbefore := of_decide_eq_true (hall call hcall (decide_eq_true hattributed))
    rw [← attributed?_eq_some_iff, attributed?, hhides.rootName?_eq source hplain,
      Option.bind_none] at hbefore
    cases hbefore
  · have hplain' := hasPlainComments_of_mem_allMemberCalls h hc
    exact decide_eq_true
      ((of_decide_eq_true hattributed).withoutComments source declared hplain')

theorem bindings_withoutComments (hmodules : ∀ call ∈ allNodes root, ¬ HidesModule source call) :
    (findings source declared root.withoutComments).bindings =
      (findings source declared root).bindings := by
  rw [findings_bindings_eq, findings_bindings_eq, allImports_withoutComments hroot h hmodules,
    bindingsOf, List.foldl_map]
  rfl

/-- Without its comments a tree gives the same extraction, up to the recorded texts, just if the
comments hide nothing. -/
theorem extract_withoutComments_agrees_iff :
    ((findings source declared root.withoutComments).bindings =
        (findings source declared root).bindings ∧
      (extract source declared root.withoutComments).Agrees (extract source declared root)) ↔
      CommentsHideNothing source declared root := by
  constructor
  · rintro ⟨-, hagrees⟩
    have himports := hagrees.imports
    have hevidence := hagrees.evidence
    simp only [extract_eq_reading source declared, reading, Int.natCast_inj] at himports
    simp only [extract_evidence_getD] at hevidence
    have hmodules := modules_of_length_eq hroot h himports
    exact ⟨hmodules, roots_of_length_eq hroot h hmodules fun package ↦ (hevidence package).usages⟩
  · intro hhides
    rw [extract_withoutComments hroot h hhides]
    exact ⟨bindings_withoutComments hroot h hhides.modules, rfl, rfl,
      fun _ ↦ ⟨rfl, rfl, rfl, rfl, rfl⟩⟩

end Results

section Sample

def loadTree (arguments : List Node) : Node := .ofChildren (.other "program")
  [.ofChildren (.other "expression_statement")
    [.ofChildren .callExpression
      [(Node.leaf .importCallee true 0 6).underField .function,
       (Node.ofChildren (.other "arguments") arguments).underField .arguments],
     .token ";" 19 20]]

def trailingSource : Text := Text.ofString "import('m' /* c */);"

def trailingComment : Node := loadTree
  [.token "(" 6 7, .leaf .string true 7 10, .leaf .comment true 11 18, .token ")" 18 19]

def leadingSource : Text := Text.ofString "import(/* c */ 'm');"

def leadingComment : Node := loadTree
  [.token "(" 6 7, .leaf .comment true 7 14, .leaf .string true 15 18, .token ")" 18 19]

theorem trailingComment_hidesNothing :
    CommentsHideNothing trailingSource ["m"] trailingComment where
  modules := by
    have hloaded : ∀ n ∈ allNodes trailingComment, n.kind = .callExpression →
        loaded? trailingSource n ≠ none := by decide
    intro call hcall hhides
    exact hloaded call hcall hhides.kind hhides.loaded?_eq
  roots := by
    intro call hcall
    cases hcall

theorem extract_trailingComment :
    trailingComment.isComment = false ∧ trailingComment.hasPlainComments = true ∧
    CommentsHideNothing trailingSource ["m"] trailingComment ∧
    (findings trailingSource ["m"] trailingComment.withoutComments).bindings =
      (findings trailingSource ["m"] trailingComment).bindings ∧
    (extract trailingSource ["m"] trailingComment.withoutComments).Agrees
      (extract trailingSource ["m"] trailingComment) :=
  ⟨rfl, rfl, trailingComment_hidesNothing,
    (extract_withoutComments_agrees_iff rfl rfl).mpr trailingComment_hidesNothing⟩

/-- A comment in front of the argument hides the import. -/
theorem extract_leadingComment :
    leadingComment.isComment = false ∧ leadingComment.hasPlainComments = true ∧
    (extract leadingSource ["m"] leadingComment).imports = 0 ∧
    (extract leadingSource ["m"] leadingComment.withoutComments).imports = 1 ∧
    ¬ (extract leadingSource ["m"] leadingComment.withoutComments).Agrees
      (extract leadingSource ["m"] leadingComment) :=
  ⟨rfl, rfl, by decide, by decide, fun h ↦ absurd h.imports (by decide)⟩

end Sample

end PackageAudit.Usage
