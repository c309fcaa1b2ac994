import Mathlib.Data.List.Sort
import PackageAudit.Proofs.Decimal.Digits
import PackageAudit.Proofs.Display.Labels
import PackageAudit.Proofs.Display.Outline
import PackageAudit.Proofs.Lists
import PackageAudit.Proofs.Text.CodePoint
import PackageAudit.Proofs.Usage.Report
import PackageAudit.Results.UsageOutline
import PackageAudit.Usage.Document

namespace PackageAudit.Results

open Display (Emoji.colon IsLiteral IsOrdinary IsVerbatim Label Markup.withoutControls Opens Outline Tag)
open Risk (Level)
open Script (Rejection)
open Usage (FileUsage Record)

def location (r : Rejection) : Text :=
  r.file ++ match r.line with
    | some n => ":" ++ Text.ofNat n
    | none => []

def lineNumbers (u : FileUsage) : Text := Text.joinWith ", " (u.lines.map Json.writeInteger)

/-- What the lines of an outline are about. -/
inductive Item where
  | usage
  | package (name : Text) (r : Record)
  | symbols (names : List Text)
  | file (u : FileUsage)
  | call (t : Text)
  | skippedFiles (count : ℕ)
  | skipped (r : Rejection)

namespace Item

def packageText (name : Text) (r : Record) : Text :=
  name ++ " (" ++ Text.ofString r.risk.name ++ ", " ++ Text.ofNat r.usages.length ++
    " call sites, " ++ Text.ofNat r.files.length ++ " files)"

def label : Item → Label
  | usage => .marked "[bold]Package usage[/]"
  | package name r => .verbatim (packageText name r)
  | symbols names => .marked ("[dim]Symbols:[/] " ++ Text.joinWith ", " names)
  | file u => .marked ("[yellow]" ++ u.file ++ "[/] [dim]lines " ++ lineNumbers u ++ "[/]")
  | call t => .verbatim (Text.preview 100 t)
  | skippedFiles count => .marked ("[bold yellow]Skipped files (" ++ Text.ofNat count ++ ")[/]")
  | skipped r => .marked ("[yellow]" ++ location r ++ "[/] [dim]" ++ r.message ++ "[/]")

/-- The text of an item: names and messages as they are. -/
def text : Item → Text
  | usage => "Package usage"
  | package name r => Markup.withoutControls (packageText name r)
  | symbols names => "Symbols: " ++ Text.joinWith ", " names
  | file u => u.file ++ " lines " ++ lineNumbers u
  | call t => Markup.withoutControls (Text.preview 100 t)
  | skippedFiles count => "Skipped files (" ++ Text.ofNat count ++ ")"
  | skipped r => location r ++ " " ++ r.message

/-- Nothing is markup in what an item holds. -/
def IsPlain : Item → Prop
  | symbols names => IsLiteral (Text.joinWith ", " names)
  | file u => IsVerbatim u.file
  | skipped r => IsVerbatim (location r) ∧ IsVerbatim r.message
  | _ => True

end Item

section Outlines

variable (least : Level) (examples : ℤ)

def fileItems (u : FileUsage) : Outline Item :=
  .node (.file u) ((Usage.upTo examples u.examples).map fun t ↦ .node (.call t) [])

def symbolsItems (names : List Text) : List (Outline Item) :=
  if names.isEmpty then [] else [.node (.symbols names) []]

def packageItems (e : Text × Record) : List (Outline Item) :=
  if e.2.files.isEmpty then []
  else [.node (.package e.1 e.2) (symbolsItems e.2.symbols ++ e.2.files.map (fileItems examples))]

def comesBefore (a b : Text × Record) : Bool :=
  b.2.risk.rank < a.2.risk.rank || (a.2.risk = b.2.risk && Text.le a.1 b.1)

def usageItems (r : Usage.Report) : Outline Item :=
  .node .usage (((r.packages.mergeSort comesBefore).filter (least ≤ ·.2.risk)).flatMap
    (packageItems examples))

def skippedItems (r : Usage.Report) : Option (Outline Item) :=
  if r.rejections.isEmpty then none
  else some (.node (.skippedFiles r.rejections.length)
    (r.rejections.map fun d ↦ .node (.skipped d) []))

theorem get_members (ms : List (String × Json.Value)) (key : String) (absent : Json.Value) :
    (Json.Value.members ms).get key absent =
      .ok (((ms.find? fun m ↦ m.1 = key).map (·.2)).getD absent) := by
  rw [Json.Value.members, Json.Value.get, Keyed.get?, List.find?_map, Option.map_map]
  simp only [Function.comp_def, Text.ofString_inj]

theorem firstOf_texts (ts : List Text) :
    firstOf examples (Json.Value.texts ts) = .ok ((Usage.upTo examples ts).map .string) := by
  have hitems : firstOf examples (Json.Value.texts ts) =
      .ok (Usage.upTo examples (ts.map Json.Value.string)) := rfl
  rw [hitems, Usage.upTo, Usage.upTo]
  split <;> simp [List.map_take]

theorem fileOutline_document (u : FileUsage) :
    fileOutline examples u.document = .ok ((fileItems examples u).map Item.label) := by
  have hlines : u.document.get "lineNumbers" (.array []) =
      .ok (.array (u.lines.map .integer)) := by rw [FileUsage.document, get_members]; rfl
  have hname : u.document.get "fileName" .null = .ok (.string u.file) := by
    rw [FileUsage.document, get_members]; rfl
  have hcalls : u.document.get "usageExamples" (.array []) =
      .ok (Json.Value.texts u.examples) := by rw [FileUsage.document, get_members]; rfl
  have hleaves : ((Usage.upTo examples u.examples).map Json.Value.string).mapM exampleLeaf =
      .ok ((Usage.upTo examples u.examples).map fun t ↦ .node (.verbatim (Text.preview 100 t)) []) := by
    rw [List.mapM_map]
    exact Lists.mapM_eq_ok fun t _ ↦ rfl
  have hnumbers : (u.lines.map Json.Value.integer).map Json.displayPlain =
      u.lines.map Json.writeInteger := by
    rw [List.map_map]
    rfl
  rw [fileOutline, hlines, hname, hcalls]
  simp only [bind, Except.bind, Json.Value.items, firstOf_texts, hleaves, pure, Except.pure]
  rw [hnumbers, fileItems, Outline.map, Outline.mapAll_eq, List.map_map]
  rfl

theorem symbolsLeaf_texts (names : List Text) :
    symbolsLeaf (Json.Value.texts names) =
      .ok ((symbolsItems names).map (Outline.map Item.label)) := by
  have hnames : (names.map Json.Value.string).mapM (·.asText) = .ok names := by
    rw [List.mapM_map]
    exact (Lists.mapM_eq_ok fun t _ ↦ rfl).trans (congrArg Except.ok (List.map_id names))
  cases names with
  | nil => rfl
  | cons name names =>
    have hfalsy : (Json.Value.texts (name :: names)).isFalsy = false := rfl
    have hitems : (Json.Value.texts (name :: names)).items =
        .ok ((name :: names).map Json.Value.string) := rfl
    rw [symbolsLeaf, hfalsy, hitems]
    simp only [Bool.false_eq_true, if_false, bind, Except.bind]
    rw [hnames]
    rfl

theorem riskOf_document (r : Record) : riskOf r.document = .ok (.text r.risk.name) := by
  rw [riskOf, Record.document, get_members]
  rfl

theorem packageOutline_document (e : Text × Record) :
    packageOutline examples e.1 e.2.document =
      .ok ((packageItems examples e).map (Outline.map Item.label)) := by
  obtain ⟨name, r⟩ := e
  have hfiles : r.document.get "fileUsage" (.array []) =
      .ok (.array (r.files.map (·.document))) := by rw [Record.document, get_members]; rfl
  have hrisk := riskOf_document r
  have hcalls : r.document.get "usageNodes" (.array []) = .ok (Json.Value.texts r.usages) := by
    rw [Record.document, get_members]; rfl
  have hsymbols : r.document.get "exportedSymbols" (.array []) =
      .ok (Json.Value.texts r.symbols) := by rw [Record.document, get_members]; rfl
  have houtlines : (r.files.map (·.document)).mapM (fileOutline examples) =
      .ok (r.files.map fun u ↦ (fileItems examples u).map Item.label) := by
    rw [List.mapM_map]
    exact Lists.mapM_eq_ok fun u _ ↦ fileOutline_document examples u
  have hsites : (Json.Value.texts r.usages).size = .ok r.usages.length :=
    congrArg Except.ok (List.length_map ..)
  have hcount : (Json.Value.array (r.files.map (·.document))).size = .ok r.files.length :=
    congrArg Except.ok (List.length_map ..)
  have hfalsy : (Json.Value.array (r.files.map (·.document))).isFalsy = r.files.isEmpty :=
    List.isEmpty_map
  rw [packageOutline, hfiles]
  simp only [bind, Except.bind, hrisk, hcalls, hsymbols, hsites, hcount, hfalsy, houtlines,
    symbolsLeaf_texts, Json.Value.asText, Json.Value.text, Json.Value.items, pure, Except.pure]
  rw [packageItems]
  split
  · rfl
  · rw [List.map_singleton, Outline.map, Outline.mapAll_eq, List.map_append, List.map_map]
    rfl

theorem levelOf_name (l : Level) : levelOf (.text l.name) = .ok l := by
  cases l <;> rfl

theorem packages_document (r : Usage.Report) : packages r.document =
    .ok ((r.packages.mergeSort comesBefore).map fun e ↦ (e.2.risk, e.1, e.2.document)) := by
  have hentries : r.document.get "packageUsage" (.object []) =
      .ok (.object (r.packages.map fun e ↦ (e.1, e.2.document))) := by
    rw [Usage.Report.document, get_members]; rfl
  rw [packages, hentries]
  simp only [bind, Except.bind, Json.Value.entries]
  rw [List.mapM_map, Lists.mapM_eq_ok (g := fun e ↦ (e.2.risk, e.1, e.2.document))]
  · refine congrArg Except.ok (List.map_mergeSort ?_).symm
    intro a _ b _
    rfl
  · intro e _
    simp only [Function.comp_apply, riskOf_document, levelOf_name, pure, Except.pure]

theorem usageOutline_document (r : Usage.Report) :
    usageOutline least examples r.document =
      .ok ((usageItems least examples r).map Item.label) := by
  have hnodes : (((r.packages.mergeSort comesBefore).map fun e ↦
      (e.2.risk, e.1, e.2.document)).filter (least ≤ ·.1)).mapM
        (fun p ↦ packageOutline examples p.2.1 p.2.2) =
      .ok (((r.packages.mergeSort comesBefore).filter (least ≤ ·.2.risk)).map fun e ↦
        (packageItems examples e).map (Outline.map Item.label)) := by
    rw [List.filter_map, List.mapM_map]
    exact Lists.mapM_eq_ok fun e _ ↦ packageOutline_document examples e
  rw [usageOutline, packages_document]
  simp only [bind, Except.bind, hnodes, pure, Except.pure]
  rw [usageItems, Outline.map, Outline.mapAll_eq, List.map_flatMap, List.flatMap_def]
  rfl

theorem skippedLeaf_document {d : Rejection} (h : d.line ≠ some 0) :
    skippedLeaf (Usage.rejectionDocument d) = .ok (leaf (Item.skipped d).label) := by
  have hfile : (Usage.rejectionDocument d).get "fileName" .null = .ok (.string d.file) := by
    rw [Usage.rejectionDocument, get_members]; rfl
  have hmessage : (Usage.rejectionDocument d).get "message" .null = .ok (.string d.message) := by
    rw [Usage.rejectionDocument, get_members]; rfl
  have hline : (Usage.rejectionDocument d).get "line" .null = .ok (match d.line with
      | some n => .integer n
      | none => .null) := by
    rw [Usage.rejectionDocument, get_members]; rfl
  rw [skippedLeaf, hfile, hmessage, hline]
  simp only [bind, Except.bind, pure, Except.pure, Item.label, location]
  cases hd : d.line with
  | none => rfl
  | some n =>
    have hn : n ≠ 0 := fun hzero ↦ h (hzero ▸ hd)
    have hfalsy : (Json.Value.integer n).isFalsy = false := by simpa [Json.Value.isFalsy] using hn
    have hnumber : Json.displayPlain (.integer n) = Text.ofNat n := by
      simp [Json.displayPlain, Json.display, Json.writeInteger]
    simp only [hfalsy, hnumber]
    rfl

theorem skippedOutline_document {r : Usage.Report} (h : ∀ d ∈ r.rejections, d.line ≠ some 0) :
    skippedOutline r.document = .ok ((skippedItems r).map (Outline.map Item.label)) := by
  have hrejections : r.document.get "diagnostics" (.array []) =
      .ok (.array (r.rejections.map Usage.rejectionDocument)) := by
    rw [Usage.Report.document, get_members]; rfl
  have hcount : (Json.Value.array (r.rejections.map Usage.rejectionDocument)).size =
      .ok r.rejections.length := congrArg Except.ok (List.length_map ..)
  have hfalsy : (Json.Value.array (r.rejections.map Usage.rejectionDocument)).isFalsy =
      r.rejections.isEmpty := List.isEmpty_map
  have hleaves : (r.rejections.map Usage.rejectionDocument).mapM skippedLeaf =
      .ok (r.rejections.map fun d ↦ leaf (Item.skipped d).label) := by
    rw [List.mapM_map]
    exact Lists.mapM_eq_ok fun d hd ↦ skippedLeaf_document (h d hd)
  rw [skippedOutline, hrejections]
  simp only [bind, Except.bind, hcount, hfalsy, hleaves, Json.Value.items, pure, Except.pure]
  rw [skippedItems]
  split
  · rfl
  · rw [Option.map_some, Outline.map, Outline.mapAll_eq, List.map_map]
    rfl

theorem line_ne_zero {s : Source} {d : Rejection} (h : Script.parse s = .error d) :
    d.line ≠ some 0 := by
  unfold Script.parse at h
  split at h
  · cases h
    exact nofun
  · dsimp only at h
    split at h
    · cases h
    · cases h
      exact nofun

end Outlines

section Wording

def styles : List String := ["bold", "dim", "yellow", "bold yellow"]

theorem opens_of_mem {a : String} (h : a ∈ styles) : Opens a := by
  have hinside : ∀ a ∈ styles, ∀ c ∈ Text.ofString a, Tag.isOfInside c = true := by decide
  have hhead : ∀ a ∈ styles, (Text.ofString a).head? ≠ some (.char '/') := by decide
  have hstart : ∀ a ∈ styles, ∃ c, (Text.ofString a).head? = some c ∧ Tag.isStart c = true := by
    simp only [styles, List.forall_mem_cons]
    exact ⟨⟨_, rfl, rfl⟩, ⟨_, rfl, rfl⟩, ⟨_, rfl, rfl⟩, ⟨_, rfl, rfl⟩, by simp⟩
  exact Display.opens_of_head ⟨hstart a h, hinside a h⟩ (hhead a h)

theorem isOrdinary_of_mem_ofNat {n : ℕ} {c : CodePoint} (h : c ∈ Text.ofNat n) : IsOrdinary c := by
  rw [Decimal.ofNat_eq_ofChars, Text.ofChars, List.mem_map] at h
  obtain ⟨d, hd, rfl⟩ := h
  obtain ⟨hlow, hhigh⟩ := Char.isDigit_iff_toNat.mp (Decimal.isDigit_of_mem_toDigits hd)
  have hlow' : 48 ≤ d.toNat := hlow
  have hhigh' : d.toNat ≤ 57 := hhigh
  have hne : ∀ e : Char, e.toNat < 48 ∨ 57 < e.toNat → CodePoint.char d ≠ .char e := by
    rintro e he heq
    obtain rfl := CodePoint.char.inj heq
    omega
  refine ⟨hne '[' (by decide), hne '\\' (by decide), hne ':' (by decide), ?_⟩
  have hnumber : (CodePoint.char d).toNat = d.toNat := rfl
  rw [Bool.eq_false_iff]
  simp only [Display.Markup.isControl, hnumber, ne_eq, Bool.or_eq_true, Bool.and_eq_true,
    decide_eq_true_eq]
  omega

theorem isOrdinary_of_mem_writeInteger {n : ℤ} : ∀ c ∈ Json.writeInteger n, IsOrdinary c := by
  intro c hc
  rw [Json.writeInteger] at hc
  split at hc
  · rcases List.mem_append.mp hc with hc | hc
    · have hsign : ∀ c ∈ Text.ofString "-", IsOrdinary c := by decide
      exact hsign c hc
    · exact isOrdinary_of_mem_ofNat hc
  · exact isOrdinary_of_mem_ofNat hc

theorem isOrdinary_of_mem_joinWith {separator : Text} {ts : List Text}
    (hseparator : ∀ c ∈ separator, IsOrdinary c) (hts : ∀ t ∈ ts, ∀ c ∈ t, IsOrdinary c) :
    ∀ c ∈ Text.joinWith separator ts, IsOrdinary c := by
  induction ts using Text.joinWith.induct with
  | case1 => exact nofun
  | case2 t => exact hts t List.mem_cons_self
  | case3 t ts hne ih =>
    rw [List.forall_mem_cons] at hts
    rw [Text.joinWith, List.forall_mem_append, List.forall_mem_append]
    · exact ⟨⟨hts.1, hseparator⟩, ih hts.2⟩
    · exact hne

theorem isVerbatim_lineNumbers (u : FileUsage) : IsVerbatim ("lines " ++ lineNumbers u) := by
  have hword : ∀ c ∈ Text.ofString "lines ", IsOrdinary c := by decide
  have hseparator : ∀ c ∈ Text.ofString ", ", IsOrdinary c := by decide
  refine Display.isVerbatim_of_isOrdinary (List.forall_mem_append.mpr ⟨hword, ?_⟩)
  refine isOrdinary_of_mem_joinWith hseparator fun t ht ↦ ?_
  obtain ⟨n, -, rfl⟩ := List.mem_map.mp ht
  exact isOrdinary_of_mem_writeInteger

theorem isVerbatim_symbols : IsVerbatim "Symbols:" := by
  have hword : ∀ c ∈ Text.ofString "Symbols", IsOrdinary c := by decide
  exact ⟨(Display.isLiteral_append_iff hword).mpr Display.isLiteral_colon, by decide⟩

theorem isVerbatim_skippedFiles (count : ℕ) :
    IsVerbatim ("Skipped files (" ++ Text.ofNat count ++ ")") := by
  have hbefore : ∀ c ∈ Text.ofString "Skipped files (", IsOrdinary c := by decide
  have hbehind : ∀ c ∈ Text.ofString ")", IsOrdinary c := by decide
  refine Display.isVerbatim_of_isOrdinary ?_
  rw [List.forall_mem_append, List.forall_mem_append]
  exact ⟨⟨hbefore, fun c ↦ isOrdinary_of_mem_ofNat⟩, hbehind⟩

theorem shows_pair (x y : Text) :
    Display.Shows ("[yellow]" ++ x ++ "[/] [dim]" ++ y ++ "[/]") (x ++ " " ++ y)
      (IsVerbatim x ∧ IsVerbatim y) := by
  have hspace : IsVerbatim " " := Display.isVerbatim_of_isOrdinary (by decide)
  have hdim := opens_of_mem (by decide : "dim" ∈ styles)
  have hyellow := opens_of_mem (by decide : "yellow" ∈ styles)
  have hbetween : Text.ofString "[/] [dim]" = (Display.closing 0).source ++ (" " ++
      (⟨0, "dim"⟩ : Tag).source) := rfl
  have hclose : Text.ofString "[/]" = (Display.closing 0).source ++ [] := rfl
  have h := (Display.shows_styled_last hdim hspace y).styled_first hyellow x
  rw [hbetween, hclose]
  simp only [Display.styled, List.append_assoc] at h ⊢
  exact h

/-- A label shows the text of its item just if nothing in the item is markup. -/
theorem Item.plain_label_eq_iff (e : Item) : e.label.plain = .ok e.text ↔ e.IsPlain := by
  have hbold := opens_of_mem (by decide : "bold" ∈ styles)
  have hdim := opens_of_mem (by decide : "dim" ∈ styles)
  have hheading := opens_of_mem (by decide : "bold yellow" ∈ styles)
  cases e with
  | usage =>
    have htitle : IsVerbatim "Package usage" := Display.isVerbatim_of_isOrdinary (by decide)
    exact (Display.shows_styled hbold "Package usage").plain_eq_iff.trans (iff_of_true htitle trivial)
  | package name r => exact iff_of_true rfl trivial
  | symbols names =>
    exact (Display.shows_styled_before hdim isVerbatim_symbols _).plain_eq_iff
  | file u =>
    have hlabel : Text.ofString "[/] [dim]lines " = "[/] [dim]" ++ Text.ofString "lines " := rfl
    have htext : Text.ofString " lines " = " " ++ Text.ofString "lines " := rfl
    have h := shows_pair u.file ("lines " ++ lineNumbers u)
    rw [Item.label, Item.text, hlabel, htext]
    simp only [List.append_assoc] at h ⊢
    exact h.plain_eq_iff.trans (and_iff_left (isVerbatim_lineNumbers u))
  | call t => exact iff_of_true rfl trivial
  | skippedFiles count =>
    have hlabel : (Item.skippedFiles count).label = .marked (Display.styled "bold yellow"
        ("Skipped files (" ++ Text.ofNat count ++ ")") []) := by
      have hstart : Text.ofString "[bold yellow]Skipped files (" =
        (⟨0, "bold yellow"⟩ : Tag).source ++ Text.ofString "Skipped files (" := rfl
      have hend : Text.ofString ")[/]" = Text.ofString ")" ++ ((Display.closing 0).source ++ []) := rfl
      rw [Item.label, hstart, hend]
      simp only [Display.styled, List.append_assoc]
    rw [hlabel]
    exact (Display.shows_styled hheading _).plain_eq_iff.trans
      (iff_of_true (isVerbatim_skippedFiles count) trivial)
  | skipped r => exact (shows_pair (location r) r.message).plain_eq_iff

end Wording

section Plain

variable (least : Level) (examples : ℤ)

theorem forall_labels_fileItems (u : FileUsage) :
    (∀ e ∈ (fileItems examples u).labels, e.IsPlain) ↔ IsVerbatim u.file := by
  rw [fileItems, Outline.labels, List.forall_mem_cons, Outline.forall_mem_labelsOfAll]
  refine and_iff_left fun o ho ↦ ?_
  obtain ⟨t, -, rfl⟩ := List.mem_map.mp ho
  simp [Outline.labels, Outline.labelsOfAll, Item.IsPlain]

theorem forall_labels_symbolsItems (names : List Text) :
    (∀ o ∈ symbolsItems names, ∀ e ∈ o.labels, e.IsPlain) ↔
      (names ≠ [] → IsLiteral (Text.joinWith ", " names)) := by
  cases names with
  | nil => simp [symbolsItems]
  | cons name names =>
    simp [symbolsItems, Outline.labelsOfAll, Outline.labels, Item.IsPlain]

def ShowsPlainly (r : Record) : Prop :=
  (r.symbols ≠ [] → IsLiteral (Text.joinWith ", " r.symbols)) ∧ ∀ u ∈ r.files, IsVerbatim u.file

theorem forall_labels_packageItems (e : Text × Record) :
    (∀ o ∈ packageItems examples e, ∀ a ∈ o.labels, a.IsPlain) ↔
      (e.2.files ≠ [] → ShowsPlainly e.2) := by
  rw [packageItems]
  split
  · rename_i hempty
    exact iff_of_true nofun fun hne ↦ absurd (List.isEmpty_iff.mp hempty) hne
  · rename_i hempty
    have hne : e.2.files ≠ [] := fun h ↦ hempty (List.isEmpty_iff.mpr h)
    rw [List.forall_mem_singleton, Outline.labels, List.forall_mem_cons,
      Outline.forall_mem_labelsOfAll, List.forall_mem_append, forall_labels_symbolsItems,
      List.forall_mem_map]
    simp only [forall_labels_fileItems]
    exact (and_iff_right trivial).trans ⟨fun hplain _ ↦ hplain, fun hplain ↦ hplain hne⟩

theorem plain_usageOutline_iff (r : Usage.Report) :
    (usageOutline least examples r.document >>= Outline.plain) =
        .ok ((usageItems least examples r).map Item.text) ↔
      ∀ e ∈ r.packages, least ≤ e.2.risk → e.2.files ≠ [] → ShowsPlainly e.2 := by
  have hbind : (usageOutline least examples r.document >>= Outline.plain) =
      ((usageItems least examples r).map Item.label).plain := by
    rw [usageOutline_document]
    rfl
  rw [hbind, Outline.plain_map_eq_iff]
  simp only [Item.plain_label_eq_iff]
  rw [usageItems, Outline.labels, List.forall_mem_cons, Outline.forall_mem_labelsOfAll]
  have htitle : Item.usage.IsPlain := trivial
  rw [and_iff_right htitle]
  constructor
  · intro h e he hleast
    refine (forall_labels_packageItems examples e).mp fun o ho ↦ h o ?_
    rw [List.mem_flatMap]
    exact ⟨e, List.mem_filter.mpr ⟨List.mem_mergeSort.mpr he, by simpa using hleast⟩, ho⟩
  · intro h o ho
    obtain ⟨e, he, ho⟩ := List.mem_flatMap.mp ho
    obtain ⟨hmem, hleast⟩ := List.mem_filter.mp he
    exact (forall_labels_packageItems examples e).mpr
      (h e (List.mem_mergeSort.mp hmem) (by simpa using hleast)) o ho

theorem plain_skippedOutline_iff {r : Usage.Report} (h : ∀ d ∈ r.rejections, d.line ≠ some 0) :
    (skippedOutline r.document >>= fun o ↦ o.mapM Outline.plain) =
        .ok ((skippedItems r).map (Outline.map Item.text)) ↔
      ∀ d ∈ r.rejections, IsVerbatim (location d) ∧ IsVerbatim d.message := by
  rw [skippedOutline_document h, skippedItems]
  split
  · rename_i hempty
    refine iff_of_true rfl ?_
    rw [List.isEmpty_iff.mp hempty]
    exact nofun
  · have hmap : ∀ (o : Outline Label) (t : Outline Text),
        ((.ok (some o) : Except Breakdown _) >>= fun o ↦ o.mapM Outline.plain) = .ok (some t) ↔
          o.plain = .ok t := by
      intro o t
      cases ho : o.plain <;>
        simp [Option.mapM_some, ho, bind, Except.bind, Functor.map, Except.map]
    rw [Option.map_some, Option.map_some, hmap, Outline.plain_map_eq_iff]
    simp only [Item.plain_label_eq_iff]
    rw [Outline.labels, List.forall_mem_cons, Outline.forall_mem_labelsOfAll, List.forall_mem_map]
    refine (and_iff_right trivial).trans (forall₂_congr fun d _ ↦ ?_)
    simp [Outline.labels, Outline.labelsOfAll, Item.IsPlain]

variable {α : Type} [Add α] [Mul α] [IntCast α] [LE α] [DecidableLE α]

/-- The outlines of a report show file names, symbols and messages letter by letter just if nothing
in them is markup. -/
theorem outlines_show_literally_iff (config : Risk.Config α) (cap : ℤ) (declared : List Text)
    (sources : List Source) :
    let r := Usage.analyze config cap declared sources
    ((usageOutline least examples r.document >>= Outline.plain) =
        .ok ((usageItems least examples r).map Item.text) ↔
      ∀ e ∈ r.packages, least ≤ e.2.risk → e.2.files ≠ [] → ShowsPlainly e.2) ∧
    ((skippedOutline r.document >>= fun o ↦ o.mapM Outline.plain) =
        .ok ((skippedItems r).map (Outline.map Item.text)) ↔
      ∀ d ∈ r.rejections, IsVerbatim (location d) ∧ IsVerbatim d.message) := by
  intro r
  refine ⟨plain_usageOutline_iff least examples r, plain_skippedOutline_iff fun d hd ↦ ?_⟩
  have hr : r.rejections = Usage.rejections sources :=
    congrArg (·.rejections) (Usage.analyze_eq cap declared config sources)
  rw [hr, Usage.rejections, List.mem_filterMap] at hd
  obtain ⟨s, -, hs⟩ := hd
  cases hparse : Script.parse s with
  | ok root =>
    rw [hparse] at hs
    cases hs
  | error e =>
    rw [hparse] at hs
    cases hs
    exact line_ne_zero hparse

end Plain

section Sample

def bracketedSource : Source := ⟨"pages/[id].js", [.surrogate 0]⟩

/-- The brackets in the name of a file that was skipped are not shown. -/
theorem skipped_bracketed_name :
    let r := Usage.analyze Risk.Config.default 10 [] [bracketedSource]
    (skippedOutline r.document >>= fun o ↦ o.mapM Outline.plain) ≠
      .ok ((skippedItems r).map (Outline.map Item.text)) := by
  intro r hshown
  have hr : r.rejections = [⟨"pages/[id].js", .plain, .unencodable, none⟩] := rfl
  have hline : ∀ d ∈ r.rejections, d.line ≠ some 0 := by
    rw [hr, List.forall_mem_singleton]
    exact nofun
  have hverbatim := (plain_skippedOutline_iff hline).mp hshown
  rw [hr, List.forall_mem_singleton] at hverbatim
  have htag : Tag.bare? "[id].js" = some (Text.ofString "id", Text.ofString ".js") := by decide
  have hnone := hverbatim.1.tags "pages/" "[id].js" rfl
  rw [htag] at hnone
  cases hnone

end Sample

end PackageAudit.Results
