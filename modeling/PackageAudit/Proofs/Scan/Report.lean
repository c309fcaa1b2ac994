import PackageAudit.Proofs.Keyed
import PackageAudit.Scan.Report

namespace PackageAudit.Scan

section Mentions

variable {files : List Source} {package name : Text}

theorem mem_mentions_iff {m : Mention} : m ∈ mentions files ↔
    m.file ∈ files ∧ ∃ phrase ∈ importPhrases, ∃ f ∈ imports phrase m.file.content,
      f.captured = m.specifier ∧ f.matched = m.statement := by
  simp only [mentions, List.mem_flatMap, List.mem_map]
  constructor
  · rintro ⟨s, hs, phrase, hphrase, f, hf, rfl⟩
    exact ⟨hs, phrase, hphrase, f, hf, rfl, rfl⟩
  · rintro ⟨hs, phrase, hphrase, f, hf, hspecifier, hstatement⟩
    exact ⟨m.file, hs, phrase, hphrase, f, hf, by rw [hspecifier, hstatement]⟩

def mentionsOf (files : List Source) (package : Text) : List Mention :=
  (mentions files).filter (Package.ofSpecifier? ·.specifier = some package)

theorem mentionsOf_append (files files' : List Source) (package : Text) :
    mentionsOf (files ++ files') package = mentionsOf files package ++ mentionsOf files' package := by
  rw [mentionsOf, mentions, List.flatMap_append, List.filter_append]
  rfl

/-- The text, read from left to right, holds an import of the package. -/
def ReadsImport (content package : Text) : Prop :=
  ∃ phrase ∈ importPhrases, ∃ f ∈ imports phrase content,
    Package.ofSpecifier? f.captured = some package

instance (content package : Text) : Decidable (ReadsImport content package) :=
  inferInstanceAs (Decidable (∃ phrase ∈ importPhrases, ∃ f ∈ imports phrase content,
    Package.ofSpecifier? f.captured = some package))

theorem exists_mem_mentionsOf_iff : (∃ m ∈ mentionsOf files package, m.file.name = name) ↔
    ∃ s ∈ files, s.name = name ∧ ReadsImport s.content package := by
  simp only [mentionsOf, List.mem_filter, decide_eq_true_eq, mem_mentions_iff]
  constructor
  · rintro ⟨m, ⟨⟨hm, phrase, hphrase, f, hf, hspecifier, -⟩, hpackage⟩, hname⟩
    exact ⟨m.file, hm, hname, phrase, hphrase, f, hf, by rw [hspecifier, hpackage]⟩
  · rintro ⟨s, hs, hname, phrase, hphrase, f, hf, hpackage⟩
    exact ⟨⟨s, f.captured, f.matched⟩, ⟨⟨hs, phrase, hphrase, f, hf, rfl, rfl⟩, hpackage⟩, hname⟩

theorem name_of_mem_mentionsOf_singleton {s : Source} {m : Mention}
    (h : m ∈ mentionsOf [s] package) : m.file.name = s.name := by
  have hm := (mem_mentions_iff.mp (List.mem_filter.mp h).1).1
  rw [List.mem_singleton.mp hm]

theorem mentionsOf_singleton_eq_nil_iff (s : Source) (package : Text) :
    mentionsOf [s] package = [] ↔ ¬ ReadsImport s.content package := by
  have hiff : (∃ m ∈ mentionsOf [s] package, m.file.name = s.name) ↔
      ∃ s' ∈ [s], s'.name = s.name ∧ ReadsImport s'.content package := exists_mem_mentionsOf_iff
  rw [List.eq_nil_iff_forall_not_mem]
  constructor
  · intro hnone hreads
    obtain ⟨m, hm, -⟩ := hiff.mpr ⟨s, List.mem_singleton_self s, rfl, hreads⟩
    exact hnone m hm
  · intro hreads m hm
    obtain ⟨s', hs', -, hs⟩ := hiff.mp ⟨m, hm, name_of_mem_mentionsOf_singleton hm⟩
    rw [List.mem_singleton.mp hs'] at hs
    exact hreads hs

theorem eraseDups_names_mentionsOf (files : List Source) (package : Text) :
    ((mentionsOf files package).map (·.file.name)).eraseDups =
      ((files.filter (ReadsImport ·.content package)).map (·.name)).eraseDups := by
  induction files using List.reverseRecOn with
  | nil => rfl
  | append_singleton files s ih =>
    rw [mentionsOf_append, List.map_append, ← Distinct.eraseDups_eraseDups_append, ih,
      Distinct.eraseDups_eraseDups_append, List.filter_append, List.map_append, List.filter_singleton]
    by_cases hreads : ReadsImport s.content package
    · have hne : (mentionsOf [s] package).map (·.file.name) ≠ [] := by
        rw [Ne, List.map_eq_nil_iff, mentionsOf_singleton_eq_nil_iff, Decidable.not_not]
        exact hreads
      rw [Distinct.eraseDups_append_of_forall_eq hne, decide_eq_true hreads]
      · rfl
      · intro t ht
        obtain ⟨m, hm, rfl⟩ := List.mem_map.mp ht
        exact name_of_mem_mentionsOf_singleton hm
    · rw [(mentionsOf_singleton_eq_nil_iff s package).mpr hreads, decide_eq_false hreads]
      rfl

end Mentions

section Usages

variable {found : Findings} {u : Usage} {declared : List Text} {files : List Source}
variable {package : Text}

theorem mem_addNew {known : List Text} {t new : Text} :
    t ∈ addNew known new ↔ t ∈ known ∨ t = new := by
  have h : t ∈ Usage.union known [new] ↔ t ∈ known ∨ t ∈ [new] := Distinct.mem_union
  rwa [List.mem_singleton] at h

/-- A mention of a declared package changes both parts of the findings, any other neither of them.
-/
theorem Findings.note_cases (found : Findings) (m : Mention) :
    (∃ q ∈ found.packages.keys, Package.ofSpecifier? m.specifier = some q ∧
      found.note m = ⟨found.packages.amend q (·.add q m), addNew found.used q⟩) ∨
    (∀ q ∈ found.packages.keys, Package.ofSpecifier? m.specifier ≠ some q) ∧ found.note m = found := by
  rw [note]
  cases hq : Package.ofSpecifier? m.specifier with
  | none => exact .inr ⟨fun _ _ ↦ Option.some_ne_none _ ∘ Eq.symm, rfl⟩
  | some q =>
    by_cases hcontains : found.packages.contains q = true
    · exact .inl ⟨q, (Keyed.contains_iff _ _).mp hcontains, rfl, if_pos hcontains⟩
    · refine .inr ⟨fun p hp heq ↦ hcontains ?_, if_neg hcontains⟩
      rw [Option.some.inj heq]
      exact (Keyed.contains_iff _ _).mpr hp

theorem Findings.keys_note (found : Findings) (m : Mention) :
    (found.note m).packages.keys = found.packages.keys := by
  obtain ⟨q, hq, -, hnote⟩ | ⟨-, hnote⟩ := found.note_cases m
  · rw [hnote, Keyed.keys_amend, if_pos hq]
  · rw [hnote]

theorem Findings.keys_foldl_note (ms : List Mention) (found : Findings) :
    (ms.foldl note found).packages.keys = found.packages.keys := by
  induction ms generalizing found with
  | nil => rfl
  | cons m ms ih => rw [List.foldl_cons, ih, keys_note]

theorem Findings.get?_note (h : found.packages.get? package = some u) (m : Mention) :
    (found.note m).packages.get? package =
      some (if Package.ofSpecifier? m.specifier = some package then u.add package m else u) := by
  obtain ⟨q, -, hq, hnote⟩ | ⟨hnone, hnote⟩ := found.note_cases m
  · rw [hnote, hq, Keyed.get?_amend]
    by_cases hqp : package = q
    · subst hqp
      rw [if_pos rfl, if_pos rfl, h, Option.getD_some]
    · have hne : ¬ some q = some package := fun heq ↦ hqp (Option.some.inj heq).symm
      rw [if_neg hqp, if_neg hne, h]
  · rw [hnote, if_neg (hnone package (Keyed.mem_keys_iff.mpr ⟨u, h⟩)), h]

theorem Findings.get?_foldl_note (h : found.packages.get? package = some u) (ms : List Mention) :
    (ms.foldl note found).packages.get? package =
      some ((ms.filter (Package.ofSpecifier? ·.specifier = some package)).foldl
        (fun u m ↦ u.add package m) u) := by
  induction ms generalizing found u with
  | nil => exact h
  | cons m ms ih =>
    rw [List.foldl_cons, ih (get?_note h m)]
    by_cases hm : Package.ofSpecifier? m.specifier = some package
    · rw [if_pos hm, List.filter_cons_of_pos (by simpa using hm), List.foldl_cons]
    · rw [if_neg hm, List.filter_cons_of_neg (by simpa using hm)]

/-- The packages in use are those with an import. -/
def Findings.Agrees (found : Findings) : Prop :=
  ∀ package, package ∈ found.used ↔ ∃ u, found.packages.get? package = some u ∧ u.imports ≠ []

theorem Findings.Agrees.note (h : found.Agrees) (m : Mention) : (found.note m).Agrees := by
  intro package
  obtain ⟨q, -, -, hnote⟩ | ⟨-, hnote⟩ := found.note_cases m
  · rw [hnote, mem_addNew, h package, Keyed.get?_amend]
    by_cases hqp : package = q
    · have himports : ((found.packages.get? q).getD default |>.add q m).imports ≠ [] :=
        List.append_ne_nil_of_right_ne_nil _ (List.cons_ne_nil _ _)
      rw [if_pos hqp]
      exact ⟨fun _ ↦ ⟨_, rfl, himports⟩, fun _ ↦ .inr hqp⟩
    · rw [if_neg hqp, or_iff_left hqp]
  · rw [hnote]
    exact h package

theorem Findings.Agrees.foldl_note (h : found.Agrees) (ms : List Mention) :
    (ms.foldl Findings.note found).Agrees := by
  induction ms generalizing found with
  | nil => exact h
  | cons m ms ih => exact ih (h.note m)

/-- The two parts of the findings are changed apart, and never differ on what is in use. -/
theorem findings_agrees (declared : List Text) (files : List Source) :
    (findings declared files).Agrees := by
  refine Findings.Agrees.foldl_note (fun package ↦ ?_) _
  constructor
  · exact fun hmem ↦ absurd hmem List.not_mem_nil
  · rintro ⟨u, hu, himports⟩
    rw [Keyed.get?_map_pair] at hu
    obtain ⟨-, hu⟩ := Option.ite_none_right_eq_some.mp hu
    obtain rfl := Option.some.inj hu
    exact absurd rfl himports

theorem foldl_addNew (known new : List Text) :
    new.foldl addNew known.eraseDups = (known ++ new).eraseDups :=
  Distinct.union_eraseDups known new

/-- What the mentions of a package amount to: their files and methods, each where it comes first,
and their statements. -/
def usageOf (files : List Source) (package : Text) : Usage where
  files := ((mentionsOf files package).map (·.file.name)).eraseDups
  methods := ((mentionsOf files package).flatMap fun m ↦
    methods m.file.content package m.specifier).eraseDups
  imports := (mentionsOf files package).map (·.statement)

theorem foldl_add_mentionsOf (files : List Source) (package : Text) :
    (mentionsOf files package).foldl (fun u m ↦ u.add package m) {} = usageOf files package := by
  rw [usageOf]
  induction mentionsOf files package using List.reverseRecOn with
  | nil => rfl
  | append_singleton ms m ih =>
    have hname := foldl_addNew (ms.map (·.file.name)) [m.file.name]
    have hmethods := foldl_addNew (ms.flatMap fun m ↦ methods m.file.content package m.specifier)
      (methods m.file.content package m.specifier)
    rw [List.foldl_cons, List.foldl_nil] at hname
    rw [List.foldl_append, ih, List.foldl_cons, List.foldl_nil, Usage.add, hname, hmethods]
    simp

theorem get?_scan (files : List Source) (h : package ∈ declared) :
    (scan declared files).packages.get? package = some (usageOf files package) := by
  rw [← foldl_add_mentionsOf]
  refine Findings.get?_foldl_note ?_ _
  rw [Keyed.get?_map_pair, if_pos h]

theorem keys_scan : (scan declared files).packages.keys = declared := by
  rw [scan, findings, Findings.keys_foldl_note, Keyed.keys, List.map_map]
  exact List.map_id' declared

theorem packages_scan (hdeclared : declared.Nodup) (files : List Source) :
    (scan declared files).packages = declared.map fun p ↦ (p, usageOf files p) := by
  have hkeys : (scan declared files).packages.keys.Nodup := keys_scan ▸ hdeclared
  rw [Keyed.eq_map_keys hkeys, keys_scan]
  apply List.map_congr_left
  intro p hp
  rw [get?_scan files hp]
  rfl

theorem mem_used_iff (files : List Source) (h : package ∈ declared) :
    package ∈ (findings declared files).used ↔ (usageOf files package).imports ≠ [] := by
  have hget : (findings declared files).packages.get? package = some (usageOf files package) :=
    get?_scan files h
  rw [findings_agrees declared files package, hget]
  simp

theorem unused_scan (declared : List Text) (files : List Source) :
    (scan declared files).unused = declared.filter fun p ↦ (mentionsOf files p).isEmpty := by
  rw [scan]
  apply List.filter_congr
  intro p hp
  rw [Bool.eq_iff_iff, Bool.not_eq_true', ← Bool.not_eq_true, List.contains_iff_mem,
    mem_used_iff files hp, usageOf, Ne, List.map_eq_nil_iff, Decidable.not_not, List.isEmpty_iff]

theorem mem_unused_iff (files : List Source) (h : package ∈ declared) :
    package ∈ (scan declared files).unused ↔ mentionsOf files package = [] := by
  rw [unused_scan, List.mem_filter, and_iff_right h, List.isEmpty_iff]

/-- The scan of several packages consists of the scans of each of them alone. -/
theorem scan_separates (hdeclared : declared.Nodup) (files : List Source) :
    (scan declared files).packages = declared.flatMap (fun p ↦ (scan [p] files).packages) ∧
    (scan declared files).unused = declared.flatMap (fun p ↦ (scan [p] files).unused) ∧
    ∀ package ∈ declared,
      (∃ u, (scan declared files).packages.get? package = some u ∧
        (scan [package] files).packages.get? package = some u) ∧
      (package ∈ (scan declared files).unused ↔ package ∈ (scan [package] files).unused) := by
  have halone : ∀ p : Text, [p].Nodup := List.nodup_singleton
  refine ⟨?_, ?_, fun package hpackage ↦ ⟨⟨usageOf files package, ?_, ?_⟩, ?_⟩⟩
  · simp only [packages_scan hdeclared, packages_scan (halone _), List.map_singleton]
    exact List.map_eq_flatMap
  · simp only [unused_scan]
    rw [← List.filter_flatMap, List.flatMap_singleton']
  · exact get?_scan files hpackage
  · exact get?_scan files (List.mem_singleton_self package)
  · rw [mem_unused_iff files hpackage, mem_unused_iff files (List.mem_singleton_self package)]

def mixedSource : Source := ⟨"a.js", "import a from 'm/x'; import 'n'; m.f(); n.g();"⟩

theorem scan_separates_mixedSource : [Text.ofString "n", "k", "m"].Nodup ∧
    Text.ofString "m" ∈ [Text.ofString "n", "k", "m"] ∧
    ∃ u, (scan ["n", "k", "m"] [mixedSource]).packages.get? "m" = some u ∧
      (scan ["m"] [mixedSource]).packages.get? "m" = some u ∧ u.methods = [Text.ofString "f"] := by
  have hdeclared : [Text.ofString "n", "k", "m"].Nodup := by decide
  have hm : Text.ofString "m" ∈ [Text.ofString "n", "k", "m"] := by decide
  obtain ⟨⟨u, hu, halone⟩, -⟩ := (scan_separates hdeclared [mixedSource]).2.2 "m" hm
  have hrun : ((scan ["m"] [mixedSource]).packages.get? "m").map (·.methods) =
      some [Text.ofString "f"] := by
    decide +kernel
  rw [halone] at hrun
  exact ⟨hdeclared, hm, u, hu, halone, Option.some.inj hrun⟩

end Usages

section Consistency

variable {declared : List Text} {files : List Source} {package : Text}

/-- What a scan says of one package fits together, and its files are those that hold an import of
the package. -/
structure Usage.IsConsistent (u : Usage) (files : List Source) (package : Text)
    (unused : List Text) : Prop where
  files_iff_imports : u.files ≠ [] ↔ u.imports ≠ []
  imports_iff_used : u.imports ≠ [] ↔ package ∉ unused
  methods_of_no_files : u.files = [] → u.methods = []
  length_files_le : u.files.length ≤ u.imports.length
  nodup_files : u.files.Nodup
  nodup_methods : u.methods.Nodup
  files_eq : u.files = ((files.filter (ReadsImport ·.content package)).map (·.name)).eraseDups

theorem files_usageOf_eq_nil_iff (files : List Source) (package : Text) :
    (usageOf files package).files = [] ↔ mentionsOf files package = [] := by
  rw [usageOf]
  cases mentionsOf files package with
  | nil => simp
  | cons m ms => simp [List.eraseDups_cons]

theorem usageOf_isConsistent (files : List Source) (h : package ∈ declared) :
    (usageOf files package).IsConsistent files package (scan declared files).unused where
  files_iff_imports := by
    rw [Ne, files_usageOf_eq_nil_iff, usageOf, Ne, List.map_eq_nil_iff]
  imports_iff_used := by
    rw [mem_unused_iff files h, usageOf, Ne, List.map_eq_nil_iff]
  methods_of_no_files := by
    rw [files_usageOf_eq_nil_iff]
    intro hnone
    rw [usageOf, hnone]
    rfl
  length_files_le := by
    have hsubset : (usageOf files package).files ⊆ (mentionsOf files package).map (·.file.name) :=
      fun t ht ↦ List.mem_eraseDups.mp ht
    have hlength := (Distinct.nodup_eraseDups _).length_le_of_subset hsubset
    simpa [usageOf] using hlength
  nodup_files := Distinct.nodup_eraseDups _
  nodup_methods := Distinct.nodup_eraseDups _
  files_eq := eraseDups_names_mentionsOf files package

/-- A scan reports every declared package in the order of declaration, and all that it says of one
is consistent. -/
theorem scan_isConsistent (hdeclared : declared.Nodup) (files : List Source) :
    (scan declared files).packages.keys = declared ∧
    (scan declared files).unused.Sublist declared ∧
    ∀ e ∈ (scan declared files).packages,
      e.2.IsConsistent files e.1 (scan declared files).unused := by
  refine ⟨keys_scan, ?_, ?_⟩
  · rw [unused_scan]
    exact List.filter_sublist
  · intro e he
    rw [packages_scan hdeclared, List.mem_map] at he
    obtain ⟨p, hp, rfl⟩ := he
    exact usageOf_isConsistent files hp

def repeatedSources : List Source :=
  [⟨"a.js", "require('m'); import 'm/c';"⟩, ⟨"b.js", "let a;"⟩, ⟨"a.js", "import d from 'm';"⟩]

theorem scan_isConsistent_repeatedSources : [Text.ofString "n", "m"].Nodup ∧
    ∃ u, (Text.ofString "m", u) ∈ (scan ["n", "m"] repeatedSources).packages ∧
      u.IsConsistent repeatedSources "m" (scan ["n", "m"] repeatedSources).unused ∧
      u.files = [Text.ofString "a.js"] ∧ u.imports.length = 3 := by
  have hdeclared : [Text.ofString "n", "m"].Nodup := by decide
  have hm : (Text.ofString "m", usageOf repeatedSources "m") ∈
      (scan ["n", "m"] repeatedSources).packages := by
    rw [packages_scan hdeclared]
    exact List.mem_cons_of_mem _ List.mem_cons_self
  have hrun : (usageOf repeatedSources "m").files = [Text.ofString "a.js"] ∧
      (usageOf repeatedSources "m").imports.length = 3 := by decide +kernel
  exact ⟨hdeclared, _, hm, (scan_isConsistent hdeclared repeatedSources).2.2 _ hm, hrun⟩

end Consistency

end PackageAudit.Scan
