import Mathlib.Algebra.Order.BigOperators.Group.List
import PackageAudit.Proofs.Usage.Report

namespace PackageAudit.Usage

open Syntax

/-- Every import and every call has one line, every call one point, and there is one of them. -/
structure Evidence.IsBalanced (e : Evidence) : Prop where
  length_lines : e.lines.length = e.imports.length + e.usages.length
  complexity : e.complexity = e.usages.length
  nil_notMem_symbols : [] ∉ e.symbols
  used : e.imports ≠ [] ∨ e.usages ≠ []

theorem evidenceOf_isBalanced (source : Text) {imports : List Import} {calls : List Node}
    (h : imports ≠ [] ∨ calls ≠ []) : (evidenceOf source imports calls).IsBalanced where
  length_lines := by simp [evidenceOf]
  complexity := by simp [evidenceOf]
  nil_notMem_symbols := Distinct.nil_notMem_symbolsOf _
  used := by simpa [evidenceOf] using h

theorem extract_isBalanced {source : Text} {declared : List Text} {root : Node} {package : Text}
    {e : Evidence} (h : (package, e) ∈ (extract source declared root).evidence) :
    e.IsBalanced := by
  rw [extract_eq_reading] at h
  obtain ⟨p, hp, he⟩ := List.mem_map.mp h
  obtain ⟨rfl, rfl⟩ := Prod.mk.inj he
  apply evidenceOf_isBalanced
  rw [evidencePackages, List.mem_eraseDups, List.mem_append] at hp
  rcases hp with hp | hp
  · obtain ⟨i, hi, hip⟩ := List.mem_filterMap.mp hp
    exact .inl (List.ne_nil_of_mem (List.mem_filter.mpr ⟨hi, decide_eq_true hip⟩))
  · obtain ⟨call, hc, hcp⟩ := List.mem_filterMap.mp hp
    have ha := (attributed?_eq_some_iff source declared).mp hcp
    exact .inr (List.ne_nil_of_mem (List.mem_filter.mpr ⟨hc, decide_eq_true ha⟩))

/-- The calls of a record fall into one block for each file, of which the first calls are shown. -/
structure Record.IsAccounted (cap : Nat) (r : Record) : Prop where
  imports_eq : r.imports = r.files.flatMap (·.imports)
  usages_eq : ∃ blocks : List (List Text), r.usages = blocks.flatten ∧
    List.Forall₂ (fun (u : FileUsage) block ↦ u.imports.length ≤ u.lines.length ∧
      block.length = u.lines.length - u.imports.length ∧
      u.examples = block.take (min cap block.length)) r.files blocks
  complexity_eq : r.complexity = r.usages.length
  nil_notMem_symbols : [] ∉ r.symbols
  nodup_symbols : r.symbols.Nodup
  isUsed_iff : r.isUsed = true ↔ r.files ≠ []

section

variable (cap : Nat) {shares : List (Text × Evidence)}

theorem recordOf_usages_eq (h : ∀ s ∈ shares, s.2.IsBalanced) :
    List.Forall₂ (fun (u : FileUsage) (block : List Text) ↦ u.imports.length ≤ u.lines.length ∧
      block.length = u.lines.length - u.imports.length ∧
      u.examples = block.take (min cap block.length))
      (recordOf cap shares).files (shares.map (·.2.usages)) := by
  rw [recordOf, List.forall₂_map_left_iff, List.forall₂_map_right_iff, List.forall₂_same]
  intro s hs
  have hlen := (h s hs).length_lines
  refine ⟨by simp only; omega, by simp only; omega, ?_⟩
  rw [List.take_eq_take_min]
  simp [upTo]

theorem recordOf_complexity_eq (h : ∀ s ∈ shares, s.2.IsBalanced) :
    (recordOf cap shares).complexity = (recordOf cap shares).usages.length := by
  induction shares with
  | nil => rfl
  | cons s shares ih =>
    have hs := (h s List.mem_cons_self).complexity
    have hrest := ih fun t ht ↦ h t (List.mem_cons_of_mem s ht)
    simp only [recordOf, List.map_cons, List.sum_cons, List.flatMap_cons, List.length_append]
      at hrest ⊢
    rw [hrest, hs, Int.natCast_add]

theorem recordOf_isUsed_iff (cap : Int) (h : ∀ s ∈ shares, s.2.IsBalanced) :
    (recordOf cap shares).isUsed = true ↔ (recordOf cap shares).files ≠ [] := by
  cases shares with
  | nil => simp [recordOf, Record.isUsed]
  | cons s shares =>
    have hs := (h s List.mem_cons_self).used
    have hused : (recordOf cap (s :: shares)).isUsed = true := by
      rcases hs with hs | hs <;> simp [recordOf, Record.isUsed, hs]
    rw [hused]
    simp [recordOf]

theorem recordOf_isAccounted (h : ∀ s ∈ shares, s.2.IsBalanced) :
    (recordOf cap shares).IsAccounted cap where
  imports_eq := by simp [recordOf, List.flatMap_map]
  usages_eq := ⟨shares.map (·.2.usages), by simp [recordOf, List.flatMap_def],
    recordOf_usages_eq cap h⟩
  complexity_eq := recordOf_complexity_eq cap h
  nil_notMem_symbols := by
    intro hnil
    obtain ⟨s, hs, hmem⟩ := List.mem_flatMap.mp (List.mem_eraseDups.mp hnil)
    exact (h s hs).nil_notMem_symbols hmem
  nodup_symbols := Distinct.nodup_eraseDups _
  isUsed_iff := recordOf_isUsed_iff cap h

end

theorem shares_isBalanced {declared : List Text} {sources : List Source} {package : Text}
    {s : Text × Evidence} (h : s ∈ shares (extractions declared sources) package) :
    s.2.IsBalanced := by
  obtain ⟨f, hf, hs⟩ := List.mem_flatMap.mp h
  obtain ⟨⟨p, e⟩, he, rfl⟩ := List.mem_map.mp hs
  obtain ⟨source, root, hx⟩ := exists_extract_of_mem_extractions declared hf
  rw [hx] at he
  exact extract_isBalanced (List.mem_filter.mp he).1

theorem shares_ne_nil_iff (files : List (Text × Extraction)) (package : Text) :
    shares files package ≠ [] ↔ ∃ f ∈ files, package ∈ f.2.evidence.keys := by
  simp [shares, Keyed.keys]

theorem sum_filter_le {β : Type} (key? : β → Option Text) (weight : β → Nat) {keys : List Text}
    (hk : keys.Nodup) (items : List β) :
    (keys.map fun k ↦ ((items.filter (key? · = some k)).map weight).sum).sum ≤
      (items.map weight).sum := by
  induction keys generalizing items with
  | nil => simp
  | cons k keys ih =>
    obtain ⟨hnot, hkeys⟩ := List.nodup_cons.mp hk
    have hrest := ih hkeys (items.filter (key? · ≠ some k))
    have hsplit := List.sum_map_filter_add_sum_map_filter_not (key? · = some k) weight items
    -- No item under another key is lost when those under `k` are taken away.
    have hother : (keys.map fun k' ↦ ((items.filter (key? · = some k')).map weight).sum) =
        keys.map fun k' ↦
          (((items.filter (key? · ≠ some k)).filter (key? · = some k')).map weight).sum := by
      apply List.map_congr_left
      intro k' hk'
      have hne : k' ≠ k := fun h ↦ hnot (h ▸ hk')
      have hfilter : (items.filter (key? · ≠ some k)).filter (key? · = some k') =
          items.filter (key? · = some k') := by
        rw [List.filter_filter]
        apply List.filter_congr
        intro b _
        by_cases hb : key? b = some k' <;> simp [hb, hne]
      rw [hfilter]
    rw [List.map_cons, List.sum_cons, hother, ← hsplit]
    exact Nat.add_le_add_left hrest _

theorem map_snd_shares (files : List (Text × Extraction)) (package : Text) :
    (shares files package).map (·.2) =
      ((files.flatMap (·.2.evidence)).filter (some ·.1 = some package)).map (·.2) := by
  simp [shares, List.map_flatMap, List.filter_flatMap, Function.comp_def]

theorem recordOf_length_imports (cap : Int) (files : List (Text × Extraction)) (package : Text) :
    (recordOf cap (shares files package)).imports.length =
      (((files.flatMap (·.2.evidence)).filter (some ·.1 = some package)).map
        (·.2.imports.length)).sum := by
  have h := congrArg (fun es ↦ (es.map fun e : Evidence ↦ e.imports.length).sum)
    (map_snd_shares files package)
  simpa [recordOf, List.length_flatMap, Function.comp_def] using h

theorem sum_length_imports_extract (source : Text) (declared : List Text) (root : Node) :
    (((extract source declared root).evidence.map (·.2.imports.length)).sum : Nat) ≤
      (extract source declared root).imports := by
  have hle := sum_filter_le (·.package? declared) (fun _ ↦ 1)
    (nodup_evidencePackages source declared root) (allImports source root)
  rw [extract_eq_reading]
  refine Int.ofNat_le.mpr ?_
  simpa [reading, packageEvidence, evidenceOf, Function.comp_def] using hle

theorem sum_length_imports_flatMap {files : List (Text × Extraction)}
    (h : ∀ f ∈ files, ((f.2.evidence.map (·.2.imports.length)).sum : Nat) ≤ f.2.imports) :
    (((files.flatMap (·.2.evidence)).map (·.2.imports.length)).sum : Nat) ≤
      (metricsOf files).imports := by
  induction files with
  | nil => rfl
  | cons f files ih =>
    have hf := h f List.mem_cons_self
    have hrest := ih fun g hg ↦ h g (List.mem_cons_of_mem f hg)
    simp only [metricsOf] at hrest
    rw [List.flatMap_cons, List.map_append, List.sum_append, Int.natCast_add]
    simp only [metricsOf, List.map_cons, List.sum_cons]
    exact Int.add_le_add hf hrest

section

variable {α : Type} [Add α] [Mul α] [IntCast α] [LE α] [DecidableLE α] (config : Risk.Config α)
variable (cap : Nat)

theorem Record.IsAccounted.rate {cap : Nat} {r : Record} (h : r.IsAccounted cap) :
    (r.rate config).IsAccounted cap where
  imports_eq := h.imports_eq
  usages_eq := h.usages_eq
  complexity_eq := h.complexity_eq
  nil_notMem_symbols := h.nil_notMem_symbols
  nodup_symbols := h.nodup_symbols
  isUsed_iff := h.isUsed_iff

theorem recordOf_files_ne_nil_iff (files : List (Text × Extraction)) (package : Text) :
    (recordOf cap (shares files package)).files ≠ [] ↔
      ∃ f ∈ files, package ∈ f.2.evidence.keys := by
  rw [← shares_ne_nil_iff, recordOf, Ne, List.map_eq_nil_iff]

/-- The report has one record for each declared package, in the order of declaration. Each record
agrees with itself and with the graph, and all together name no more imports than were counted. -/
theorem analyze_isAccounted {declared : List Text} (hd : declared.Nodup) (sources : List Source) :
    (analyze config cap declared sources).packages.keys = declared ∧
    (∀ package ∈ declared, ∃ record,
      (analyze config cap declared sources).packages.get? package = some record ∧
      record.IsAccounted cap ∧
      (record.isUsed = true ↔ package ∈ (analyze config cap declared sources).graph.keys)) ∧
    (((analyze config cap declared sources).packages.map (·.2.imports.length)).sum : Nat) ≤
      (analyze config cap declared sources).metrics.imports := by
  let files := extractions declared sources
  have hrecord (package : Text) : (recordOf cap (shares files package)).IsAccounted cap :=
    recordOf_isAccounted cap fun _ hs ↦ shares_isBalanced hs
  rw [analyze_eq]
  refine ⟨by simp [Keyed.keys, Function.comp_def], fun package hp ↦ ?_, ?_⟩
  · refine ⟨_, (Keyed.get?_map_pair declared _ package).trans (if_pos hp),
      (hrecord package).rate config, ?_⟩
    have hused := ((hrecord package).rate config).isUsed_iff
    rw [hused, mem_keys_foldl_link]
    refine (recordOf_files_ne_nil_iff cap files package).trans ?_
    exact exists_congr fun f ↦ and_congr_right fun _ ↦ (and_iff_right hp).symm
  · have hlengths : (declared.map fun p ↦ (p, (recordOf cap (shares files p)).rate config)).map
        (·.2.imports.length) = declared.map fun p ↦
          (((files.flatMap (·.2.evidence)).filter (some ·.1 = some p)).map
            (·.2.imports.length)).sum := by
      rw [List.map_map]
      exact List.map_congr_left fun p _ ↦ recordOf_length_imports cap files p
    have hattributed := sum_filter_le (fun e : Text × Evidence ↦ some e.1) (·.2.imports.length) hd
      (files.flatMap (·.2.evidence))
    have hcounted : (((files.flatMap (·.2.evidence)).map (·.2.imports.length)).sum : Nat) ≤
        (metricsOf files).imports := by
      refine sum_length_imports_flatMap fun f hf ↦ ?_
      obtain ⟨source, root, hx⟩ := exists_extract_of_mem_extractions declared hf
      exact hx ▸ sum_length_imports_extract source declared root
    dsimp only
    rw [hlengths]
    exact (Int.ofNat_le.mpr hattributed).trans hcounted

theorem analyze_isAccounted_two_packages :
    let declared : List Text := ["lodash", "left-pad"]
    let report := analyze Risk.Config.default (2 : Nat) declared
      [⟨"a.js", "const _ = require('lodash');\nconsole.log(_.map(xs, f), leftPad.pad('x'));\n"⟩,
       ⟨"b.js", "const ="⟩]
    declared.Nodup ∧ ("lodash" : Text) ∈ declared ∧ report.packages.keys = declared ∧
    (∃ record, report.packages.get? "lodash" = some record ∧ record.IsAccounted 2 ∧
      (record.isUsed = true ↔ ("lodash" : Text) ∈ report.graph.keys)) ∧
    ((report.packages.map (·.2.imports.length)).sum : Nat) ≤ report.metrics.imports := by
  intro declared report
  have hd : declared.Nodup := by decide
  have hp : ("lodash" : Text) ∈ declared := by decide
  have h := analyze_isAccounted Risk.Config.default 2 hd
    [⟨"a.js", "const _ = require('lodash');\nconsole.log(_.map(xs, f), leftPad.pad('x'));\n"⟩,
     ⟨"b.js", "const ="⟩]
  exact ⟨hd, hp, h.1, h.2.1 "lodash" hp, h.2.2⟩

end

end PackageAudit.Usage
