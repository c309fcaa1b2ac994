import PackageAudit.Proofs.Lists
import PackageAudit.Proofs.Results.Literal
import PackageAudit.Proofs.Usage.Accounting
import PackageAudit.Results.Overview

namespace PackageAudit.Results

open Display (Label Outline)
open Risk (Level)
open Usage (Record)

namespace Entry

def name : Entry → Text
  | unused name | hidden name | row name _ => name

def shown? : Entry → Option Text
  | row name _ => some name
  | _ => none

def Describes (least : Level) (e : Text × Record) : Entry → Prop
  | unused name => name = e.1 ∧ e.2.isUsed = false
  | hidden name => name = e.1 ∧ e.2.isUsed = true ∧ ¬least ≤ e.2.risk
  | row name cells => name = e.1 ∧ e.2.isUsed = true ∧ least ≤ e.2.risk ∧ cells.head? = some e.1

def ofRecord (least : Level) (e : Text × Record) : Entry :=
  if e.2.isUsed then
    if least ≤ e.2.risk then
      .row e.1 [e.1, marked (.text e.2.risk.name), Text.ofNat e.2.imports.length,
        Text.ofNat e.2.usages.length, Text.ofNat e.2.symbols.length, Text.ofNat e.2.files.length]
    else .hidden e.1
  else .unused e.1

variable {least : Level}

theorem describes_ofRecord (e : Text × Record) : Describes least e (ofRecord least e) := by
  unfold ofRecord
  by_cases hused : e.2.isUsed = true
  · rw [if_pos hused]
    split
    · rename_i hleast
      exact ⟨rfl, hused, hleast, rfl⟩
    · rename_i hleast
      exact ⟨rfl, hused, hleast⟩
  · rw [if_neg hused]
    exact ⟨rfl, Bool.eq_false_iff.mpr hused⟩

theorem Describes.name_eq {e : Text × Record} {entry : Entry} (h : entry.Describes least e) :
    entry.name = e.1 := by
  cases entry <;> exact h.1

theorem shown?_ofRecord (e : Text × Record) :
    (ofRecord least e).shown? =
      if e.2.isUsed && decide (least ≤ e.2.risk) then some e.1 else none := by
  unfold ofRecord
  by_cases hused : e.2.isUsed = true
  · by_cases hleast : least ≤ e.2.risk <;> simp [hused, hleast, shown?]
  · simp [hused, shown?]

theorem filterMap_shown?_ofRecord (es : Keyed Record) :
    (es.map (ofRecord least)).filterMap shown? =
      (es.filter fun e ↦ e.2.isUsed && decide (least ≤ e.2.risk)).map (·.1) := by
  rw [List.filterMap_map, ← List.filterMap_eq_map, List.filterMap_filter]
  exact List.filterMap_congr fun e _ ↦ shown?_ofRecord e

end Entry

section Documents

theorem isUnused_document (r : Record) : isUnused r.document = .ok (!r.isUsed) := by
  have himports : r.document.get "importNodes" .null = .ok (Json.Value.texts r.imports) := by
    rw [Record.document, get_members]; rfl
  have husages : r.document.get "usageNodes" .null = .ok (Json.Value.texts r.usages) := by
    rw [Record.document, get_members]; rfl
  have hfalsy (ts : List Text) : (Json.Value.texts ts).isFalsy = ts.isEmpty := List.isEmpty_map
  rw [isUnused, himports, husages]
  simp only [bind, Except.bind, hfalsy, pure, Except.pure, Record.isUsed]
  cases r.imports <;> cases r.usages <;> rfl

theorem sizeAt_of_get {record : Json.Value} {key : String} {values : List Json.Value}
    (h : record.get key (.array []) = .ok (.array values)) :
    sizeAt record key = .ok (Text.ofNat values.length) := by
  rw [sizeAt, h]
  rfl

theorem entry_document (least : Level) (e : Text × Record) :
    Entry.of least e.1 e.2.document = .ok (Entry.ofRecord least e) := by
  obtain ⟨name, r⟩ := e
  have himports : r.document.get "importNodes" (.array []) =
      .ok (.array (r.imports.map .string)) := by rw [Record.document, get_members]; rfl
  have husages : r.document.get "usageNodes" (.array []) =
      .ok (.array (r.usages.map .string)) := by rw [Record.document, get_members]; rfl
  have hsymbols : r.document.get "exportedSymbols" (.array []) =
      .ok (.array (r.symbols.map .string)) := by rw [Record.document, get_members]; rfl
  have hfiles : r.document.get "fileUsage" (.array []) =
      .ok (.array (r.files.map (·.document))) := by rw [Record.document, get_members]; rfl
  rw [Entry.of, isUnused_document]
  simp only [bind, Except.bind, pure, Except.pure, riskOf_document, levelOf_name,
    sizeAt_of_get himports, sizeAt_of_get husages, sizeAt_of_get hsymbols, sizeAt_of_get hfiles,
    List.length_map, Entry.ofRecord]
  cases r.isUsed <;> by_cases hleast : least ≤ r.risk <;> simp [hleast]

theorem entries_document (least : Level) (r : Usage.Report) :
    entries least r.document = .ok (r.packages.map (Entry.ofRecord least)) := by
  have hpackages : r.document.get "packageUsage" (.object []) =
      .ok (.object (r.packages.map fun e ↦ (e.1, e.2.document))) := by
    rw [Usage.Report.document, get_members]; rfl
  rw [entries, hpackages]
  simp only [bind, Except.bind, Json.Value.entries]
  rw [List.mapM_map]
  exact Lists.mapM_eq_ok fun e _ ↦ entry_document least e

end Documents

section Order

theorem rank_injective {a b : Level} (h : a.rank = b.rank) : a = b := by
  cases a <;> cases b <;> simp_all [Level.rank]

theorem comesBefore_iff {a b : Text × Record} : comesBefore a b = true ↔
    b.2.risk.rank < a.2.risk.rank ∨ a.2.risk = b.2.risk ∧ Text.le a.1 b.1 = true := by
  simp [comesBefore]

theorem comesBefore_trans {a b c : Text × Record} (h : comesBefore a b = true)
    (h' : comesBefore b c = true) : comesBefore a c = true := by
  rw [comesBefore_iff] at h h' ⊢
  rcases h with h | ⟨h, hname⟩ <;> rcases h' with h' | ⟨h', hname'⟩
  · exact .inl (h'.trans h)
  · exact .inl (h' ▸ h)
  · exact .inl (h ▸ h')
  · exact .inr ⟨h.trans h', Text.le_trans hname hname'⟩

theorem comesBefore_total (a b : Text × Record) : (comesBefore a b || comesBefore b a) = true := by
  rw [Bool.or_eq_true, comesBefore_iff, comesBefore_iff]
  rcases Nat.lt_trichotomy a.2.risk.rank b.2.risk.rank with h | h | h
  · exact .inr (.inl h)
  · have hrisk := rank_injective h
    rcases Text.le_total a.1 b.1 with hname | hname
    · exact .inl (.inr ⟨hrisk, hname⟩)
    · exact .inr (.inr ⟨hrisk.symm, hname⟩)
  · exact .inl (.inl h)

/-- The higher risk stands first, and within one risk the smaller name. -/
def Precedes (a b : Text × Record) : Prop :=
  b.2.risk.rank < a.2.risk.rank ∨ a.2.risk = b.2.risk ∧ Text.le a.1 b.1 = true ∧ a.1 ≠ b.1

theorem pairwise_mergeSort_comesBefore {es : Keyed Record} (h : es.keys.Nodup) :
    (es.mergeSort comesBefore).Pairwise Precedes := by
  have hsorted : (es.mergeSort comesBefore).Pairwise fun a b ↦ comesBefore a b = true := by
    apply List.pairwise_mergeSort
    · exact fun _ _ _ ↦ comesBefore_trans
    · exact comesBefore_total
  have hkeys : ((es.mergeSort comesBefore).map (·.1)).Perm es.keys :=
    (List.mergeSort_perm es comesBefore).map (·.1)
  refine (hsorted.and (List.pairwise_map.mp (hkeys.nodup_iff.mpr h))).imp ?_
  intro a b ⟨hbefore, hne⟩
  exact (comesBefore_iff.mp hbefore).imp_right fun ⟨hrisk, hname⟩ ↦ ⟨hrisk, hname, hne⟩

end Order

def shownPackages (least : Level) (r : Usage.Report) : Keyed Record :=
  ((r.packages.mergeSort comesBefore).filter (least ≤ ·.2.risk)).filter (·.2.isUsed)

theorem keys_shownPackages_perm (least : Level) (r : Usage.Report) :
    (shownPackages least r).keys.Perm
      ((r.packages.map (Entry.ofRecord least)).filterMap Entry.shown?) := by
  rw [Entry.filterMap_shown?_ofRecord, shownPackages, List.filter_filter]
  exact ((List.mergeSort_perm r.packages comesBefore).filter _).map _

/-- A record that is used just if it has files gives one node of the outline, any other none. -/
theorem children_usageItems (least : Level) (examples : ℤ) {r : Usage.Report}
    (h : ∀ e ∈ r.packages, e.2.isUsed = true ↔ e.2.files ≠ []) :
    (usageItems least examples r).children.map Outline.label =
      (shownPackages least r).map fun e ↦ .package e.1 e.2 := by
  have hitems : ∀ e ∈ (r.packages.mergeSort comesBefore).filter (least ≤ ·.2.risk),
      (packageItems examples e).map Outline.label =
        if e.2.isUsed then [Item.package e.1 e.2] else [] := by
    intro e he
    have hused := h e (List.mem_mergeSort.mp (List.mem_filter.mp he).1)
    rw [packageItems]
    split
    · rename_i hempty
      rw [if_neg fun hu ↦ hused.mp hu (List.isEmpty_iff.mp hempty), List.map_nil]
    · rename_i hempty
      rw [if_pos (hused.mpr fun hnil ↦ hempty (List.isEmpty_iff.mpr hnil))]
      rfl
  rw [usageItems, Outline.children, List.map_flatMap, List.flatMap_congr hitems, shownPackages,
    Lists.flatMap_ite_singleton]

/-- The entries of an overview and the nodes of an outline show the same packages of a report. -/
structure Agree (least : Level) (r : Usage.Report) (es : List Entry) (nodes : List (Outline Label)) :
    Prop where
  describes : List.Forall₂ (fun e entry ↦ entry.Describes least e) r.packages es
  shows : ∃ shown : Keyed Record, (∀ e ∈ shown, e ∈ r.packages) ∧
    nodes.map Outline.label = shown.map (fun e ↦ (Item.package e.1 e.2).label) ∧
    shown.keys.Perm (es.filterMap Entry.shown?) ∧ shown.Pairwise Precedes

theorem agree_of_files {least : Level} {r : Usage.Report} (hkeys : r.packages.keys.Nodup)
    (h : ∀ e ∈ r.packages, e.2.isUsed = true ↔ e.2.files ≠ []) (examples : ℤ) :
    Agree least r (r.packages.map (Entry.ofRecord least))
      ((usageItems least examples r).map Item.label).children where
  describes := by
    rw [List.forall₂_map_right_iff, List.forall₂_same]
    exact fun e _ ↦ Entry.describes_ofRecord e
  shows := by
    refine ⟨shownPackages least r, fun e he ↦ ?_, ?_, keys_shownPackages_perm least r, ?_⟩
    · exact List.mem_mergeSort.mp (List.mem_filter.mp (List.mem_filter.mp he).1).1
    · have hchildren : ((usageItems least examples r).map Item.label).children =
          (usageItems least examples r).children.map (Outline.map Item.label) := by
        rw [usageItems, Outline.map, Outline.mapAll_eq]
        rfl
      have hlabel (o : Outline Item) : (o.map Item.label).label = o.label.label := by
        cases o; rfl
      have hlabels := congrArg (List.map Item.label) (children_usageItems least examples h)
      rw [List.map_map, List.map_map] at hlabels
      rw [hchildren, List.map_map]
      exact (List.map_congr_left fun o _ ↦ hlabel o).trans hlabels
    · exact ((pairwise_mergeSort_comesBefore hkeys).filter _).filter _

section

variable {α : Type} [Add α] [Mul α] [IntCast α] [LE α] [DecidableLE α]

theorem isUsed_iff_of_mem_analyze {config : Risk.Config α} {cap : ℤ} {declared : List Text}
    {sources : List Source} {e : Text × Record}
    (h : e ∈ (Usage.analyze config cap declared sources).packages) :
    e.2.isUsed = true ↔ e.2.files ≠ [] := by
  rw [Usage.analyze_eq] at h
  obtain ⟨package, -, rfl⟩ := List.mem_map.mp h
  exact Usage.recordOf_isUsed_iff cap fun _ hs ↦ Usage.shares_isBalanced hs

/-- In the overview of a report every declared package is unused, hidden by its risk, or in a row.
The outline shows the packages with a row, the higher risk first and by name within one risk. -/
theorem overview_agrees_with_outline (config : Risk.Config α) (cap : ℤ) {declared : List Text}
    (hd : declared.Nodup) (sources : List Source) (least : Level) (examples : ℤ) :
    let r := Usage.analyze config cap declared sources
    ∃ es title nodes, entries least r.document = .ok es ∧
      usageOutline least examples r.document = .ok (.node title nodes) ∧
      es.map Entry.name = declared ∧ Agree least r es nodes := by
  intro r
  have hkeys : r.packages.keys = declared := by
    have hr : r.packages = _ := congrArg (·.packages) (Usage.analyze_eq cap declared config sources)
    rw [hr]
    simp [Keyed.keys, Function.comp_def]
  have hnodup : r.packages.keys.Nodup := by rw [hkeys]; exact hd
  have hagree : Agree least r _ _ :=
    agree_of_files hnodup (fun e he ↦ isUsed_iff_of_mem_analyze he) examples
  refine ⟨_, _, _, entries_document least r, usageOutline_document least examples r, ?_, hagree⟩
  rw [List.map_map, ← hkeys]
  exact List.map_congr_left fun e _ ↦ (Entry.describes_ofRecord e).name_eq

theorem overview_agrees_with_outline_three_packages :
    let declared : List Text := ["left-pad", "moment", "lodash"]
    let r := Usage.analyze Risk.Config.default 1 declared
      [⟨"a.js", "import { merge, pick, omit } from 'lodash';\nmerge(pick(a, 'x'), b);\n"⟩,
       ⟨"b.js", "const moment = require('moment');\nmoment.utc();\n"⟩]
    declared.Nodup ∧ ∃ es title nodes, entries .medium r.document = .ok es ∧
      usageOutline .medium 3 r.document = .ok (.node title nodes) ∧
      es.map Entry.name = declared ∧ Agree .medium r es nodes := by
  intro declared r
  have hd : declared.Nodup := by decide
  exact ⟨hd, overview_agrees_with_outline Risk.Config.default 1 hd _ .medium 3⟩

end

end PackageAudit.Results
