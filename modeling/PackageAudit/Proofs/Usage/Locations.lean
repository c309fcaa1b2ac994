import PackageAudit.Proofs.Syntax.Spans
import PackageAudit.Proofs.Usage.Reading

namespace PackageAudit.Usage

open Syntax

section Imports

variable (source : Text)

theorem Reaches.encloses {call value : Place} {member : Option Text}
    (h : Reaches source call value member) : value.Encloses call := by
  induction h with
  | call => exact .refl call
  | awaited hparent _ => exact .parent (.refl call) hparent
  | property _ hparent _ _ _ ih => exact .parent ih hparent

theorem import?_statement {p : Place} {i : Import} (h : import? source p = some i) :
    i.mention = p.node ∧ ∃ q : Place, q.Encloses p ∧ i.statement = q.node := by
  have hself : ∃ q : Place, q.Encloses p ∧ p.node = q.node := ⟨p, .refl p, rfl⟩
  unfold import? at h
  split at h
  · obtain ⟨specifier, -, hi⟩ := Option.bind_eq_some_iff.mp h
    cases hi
    exact ⟨rfl, hself⟩
  · obtain ⟨specifier, -, hi⟩ := Option.bind_eq_some_iff.mp h
    cases hi
    exact ⟨rfl, hself⟩
  · obtain ⟨specifier, -, hi⟩ := Option.bind_eq_some_iff.mp h
    split at hi
    · rename_i declarator names hd
      cases hi
      obtain ⟨value, member, hreach, hvalue, -⟩ := (initialized?_eq_some_iff source).mp hd
      have hdeclarator := (hreach.encloses source).parent hvalue.parent
      refine ⟨rfl, ?_⟩
      cases hdeclaration : declarator.parent? with
      | none => exact hself
      | some declaration => exact ⟨declaration, hdeclarator.parent hdeclaration, rfl⟩
    · cases hi
      exact ⟨rfl, hself⟩
  · cases h

end Imports

section Lines

variable (source : Text)

def StandsAt (n : Node) (text : Text) : Prop :=
  ∃ before after, source = before ++ text ++ after ∧ before.length = n.start ∧
    (before ++ text).length = n.stop

def newlinesBefore (place : Nat) : Nat := (source.take place).count (.char '\n')

theorem newlinesBefore_mono {i j : Nat} (h : i ≤ j) :
    newlinesBefore source i ≤ newlinesBefore source j :=
  (List.take_sublist_take_left h).count_le _

theorem lineAt_eq (place : Nat) : Script.lineAt source place = 1 + newlinesBefore source place :=
  Nat.add_comm _ 1

theorem lineAt_mono {i j : Nat} (h : i ≤ j) :
    (Script.lineAt source i : Int) ≤ Script.lineAt source j :=
  Int.ofNat_le.mpr (Nat.add_le_add_right (newlinesBefore_mono source h) 1)

variable (imports : List Import) (calls : List Node)

theorem take_lines_evidenceOf :
    (evidenceOf source imports calls).lines.take (evidenceOf source imports calls).imports.length =
      imports.map fun i ↦ (Script.lineAt source i.mention.start : Int) := by
  simp [evidenceOf]

theorem drop_lines_evidenceOf :
    (evidenceOf source imports calls).lines.drop (evidenceOf source imports calls).imports.length =
      calls.map fun call ↦ (Script.lineAt source call.start : Int) := by
  simp [evidenceOf]

end Lines

/-- The evidence gives one line for each import and for each call. An import stands where a node of
the tree stands, and its line is one of the lines there. The calls stand where nodes of the tree
stand, which come in the order of the tree, and each has the line on which it starts. -/
structure Evidence.IsLocated (source : Text) (root : Node) (e : Evidence) : Prop where
  length_lines : e.lines.length = e.imports.length + e.usages.length
  imports : ∃ statements ⊆ allNodes root, List.Forall₂ (StandsAt source) statements e.imports ∧
    List.Forall₂ (fun n (line : Int) ↦ 1 + newlinesBefore source n.start ≤ line ∧
      line ≤ 1 + newlinesBefore source n.stop) statements (e.lines.take e.imports.length)
  usages : ∃ calls, calls.Sublist (allNodes root) ∧
    List.Forall₂ (StandsAt source) calls e.usages ∧
    List.Forall₂ (fun n (line : Int) ↦ line = 1 + newlinesBefore source n.start) calls
      (e.lines.drop e.imports.length)
  sorted_imports : (e.lines.take e.imports.length).Pairwise (· ≤ ·)
  sorted_usages : (e.lines.drop e.imports.length).Pairwise (· ≤ ·)

section Extract

variable {source : Text} {root : Node} (h : root.HasSpans source.length)

include h

theorem standsAt_of_mem {n : Node} (hn : n ∈ allNodes root) :
    StandsAt source n (n.text source) := by
  obtain ⟨p, hp, rfl⟩ := List.mem_map.mp hn
  rw [allPlaces, ← places_eq_preorder] at hp
  have hle := h.start_le_stop p hp
  have hlength := h.stop_le_length p hp
  refine ⟨source.take p.node.start, source.drop p.node.stop,
    (split_at_text source hle).symm, ?_, ?_⟩
  · rw [List.length_take]
    omega
  · rw [take_start_append_text source hle, List.length_take]
    omega

theorem pairwise_allNodes : (allNodes root).Pairwise (·.start ≤ ·.start) := by
  have hordered := h.ordered
  rw [places_eq_preorder] at hordered
  exact List.pairwise_map.mpr hordered

theorem statement_of_mem {i : Import} (hi : i ∈ allImports source root) :
    i.statement ∈ allNodes root ∧ i.statement.start ≤ i.mention.start ∧
      i.mention.start ≤ i.statement.stop := by
  obtain ⟨p, hp, hi⟩ := List.mem_filterMap.mp hi
  rw [allPlaces, ← places_eq_preorder] at hp
  obtain ⟨hmention, q, hq, hstatement⟩ := import?_statement source hi
  obtain ⟨hmem, hstart, hstop⟩ := h.of_encloses hp hq
  rw [hmention, hstatement]
  rw [places_eq_preorder] at hmem
  have hle := h.start_le_stop p hp
  exact ⟨List.mem_map_of_mem hmem, hstart, Nat.le_trans hle hstop⟩

theorem line_of_mem {i : Import} (hi : i ∈ allImports source root) :
    (1 + newlinesBefore source i.statement.start : Int) ≤ Script.lineAt source i.mention.start ∧
      (Script.lineAt source i.mention.start : Int) ≤
        1 + newlinesBefore source i.statement.stop := by
  obtain ⟨-, hstart, hstop⟩ := statement_of_mem h hi
  have hfirst := lineAt_mono source hstart
  have hlast := lineAt_mono source hstop
  rw [lineAt_eq source i.statement.start] at hfirst
  rw [lineAt_eq source i.statement.stop] at hlast
  exact ⟨hfirst, hlast⟩

theorem pairwise_allImports :
    (allImports source root).Pairwise (·.mention.start ≤ ·.mention.start) := by
  have hordered := h.ordered
  rw [places_eq_preorder] at hordered
  refine hordered.filterMap _ fun p q hle i hi j hj ↦ ?_
  rw [(import?_statement source hi).1, (import?_statement source hj).1]
  exact hle

variable {imports : List Import} {calls : List Node}

/-- Imports and calls that are left over from those of the tree, in their order. -/
theorem evidenceOf_isLocated (hi : imports.Sublist (allImports source root))
    (hc : calls.Sublist (allMemberCalls root)) :
    (evidenceOf source imports calls).IsLocated source root := by
  have hnodes : calls.Sublist (allNodes root) := hc.trans List.filter_sublist
  have hstatement : ∀ i ∈ imports, i.statement ∈ allNodes root := fun i hmem ↦
    (statement_of_mem h (hi.subset hmem)).1
  constructor
  case length_lines => simp [evidenceOf]
  case imports =>
    rw [take_lines_evidenceOf]
    refine ⟨imports.map (·.statement), ?_, ?_, ?_⟩
    · intro n hn
      obtain ⟨i, hmem, rfl⟩ := List.mem_map.mp hn
      exact hstatement i hmem
    · rw [evidenceOf, List.forall₂_map_left_iff, List.forall₂_map_right_iff, List.forall₂_same]
      exact fun i hmem ↦ standsAt_of_mem h (hstatement i hmem)
    · rw [List.forall₂_map_left_iff, List.forall₂_map_right_iff, List.forall₂_same]
      exact fun i hmem ↦ line_of_mem h (hi.subset hmem)
  case usages =>
    rw [drop_lines_evidenceOf]
    refine ⟨calls, hnodes, ?_, ?_⟩
    · rw [evidenceOf, List.forall₂_map_right_iff, List.forall₂_same]
      exact fun n hn ↦ standsAt_of_mem h (hnodes.subset hn)
    · rw [List.forall₂_map_right_iff, List.forall₂_same]
      exact fun n _ ↦ congrArg Nat.cast (lineAt_eq source n.start)
  case sorted_imports =>
    rw [take_lines_evidenceOf, List.pairwise_map]
    exact ((pairwise_allImports h).sublist hi).imp fun hle ↦ lineAt_mono source hle
  case sorted_usages =>
    rw [drop_lines_evidenceOf, List.pairwise_map]
    exact ((pairwise_allNodes h).sublist hnodes).imp fun hle ↦ lineAt_mono source hle

/-- In a tree over the source, all evidence is there letter by letter, on the lines that are given
for it. -/
theorem extract_isLocated (declared : List Text) {package : Text} {e : Evidence}
    (he : (package, e) ∈ (extract source declared root).evidence) : e.IsLocated source root := by
  rw [extract_eq_reading] at he
  obtain ⟨p, -, he⟩ := List.mem_map.mp he
  obtain ⟨-, rfl⟩ := Prod.mk.inj he
  exact evidenceOf_isLocated h List.filter_sublist List.filter_sublist

end Extract

section Sample

def twoLineSource : Text := "const x =\n require('m');\nx.y();"

def twoLineLoad : Node := .ofChildren .callExpression
  [(Node.leaf .identifier true 11 18).underField .function,
   (Node.ofChildren (.other "arguments")
     [.token "(" 18 19, .leaf .string true 19 22, .token ")" 22 23]).underField .arguments]

def twoLineCall : Node := .ofChildren .callExpression
  [(Node.ofChildren .memberExpression
     [(Node.leaf .identifier true 25 26).underField .object, .token "." 26 27,
      (Node.leaf (.other "property_identifier") true 27 28).underField .property]).underField
     .function,
   (Node.ofChildren (.other "arguments") [.token "(" 28 29, .token ")" 29 30]).underField
     .arguments]

def twoLineTree : Node := .ofChildren (.other "program")
  [.ofChildren (.other "lexical_declaration")
     [.token "const" 0 5,
      .ofChildren .variableDeclarator
        [(Node.leaf .identifier true 6 7).underField .name, .token "=" 8 9,
         twoLineLoad.underField .value],
      .token ";" 23 24],
   .ofChildren (.other "expression_statement") [twoLineCall, .token ";" 30 31]]

theorem extract_isLocated_twoLine :
    let e : Evidence := ⟨["const x =\n require('m');"], ["x.y()"], ["y"], [2, 3], 1⟩
    twoLineTree.HasSpans twoLineSource.length ∧
    (("m" : Text), e) ∈ (extract twoLineSource ["m"] twoLineTree).evidence ∧
    e.IsLocated twoLineSource twoLineTree := by
  intro e
  have h : twoLineTree.HasSpans twoLineSource.length := by decide
  have he : (("m" : Text), e) ∈ (extract twoLineSource ["m"] twoLineTree).evidence := by decide
  exact ⟨h, he, extract_isLocated h ["m"] he⟩

end Sample

end PackageAudit.Usage
