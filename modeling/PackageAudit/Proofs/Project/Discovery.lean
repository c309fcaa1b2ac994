import PackageAudit.Project.Discovery
import PackageAudit.Proofs.File.Tree
import PackageAudit.Proofs.Ignore.Exclusion
import PackageAudit.Proofs.Lists

namespace PackageAudit

namespace Ignore

variable {tree tree' : Tree}

/-- The rules of a project depend on the content of its ignore files only. -/
theorem Excluder.load_eq (h : tree.SameEntries tree') (htree : tree.HasDistinctFiles) (root : Path)
    (includeIgnored : Bool) (extra : List Text) :
    Excluder.load tree root includeIgnored extra = Excluder.load tree' root includeIgnored extra := by
  have hfiles : filePatterns tree root = filePatterns tree' root := by
    simp only [filePatterns, h.readText_eq htree]
  rw [load, load, hfiles]

theorem Excluder.excludes_of_no_rules {e : Excluder} (h : e.rules = []) (file : Path) :
    e.excludes file = false := by
  have hignores : ∀ path, ignores e.rules path = false := by
    intro path
    rw [h]
    rfl
  rw [excludes]
  split
  · rfl
  · simp [hignores]

end Ignore

namespace Project

open Ignore (Excluder)

section Verdicts

variable {e : Excluder} {includes excludes : List Text}

theorem accepts_texts (patterns : List Text) (path : Text) :
    accepts (.texts patterns) path = .ok (Glob.acceptsAny patterns path) := by
  have hany : anyAccepts path (patterns.map .string) = .ok (Glob.acceptsAny patterns path) := by
    induction patterns with
    | nil => rfl
    | cons g patterns ih =>
      rw [List.map_cons, anyAccepts, ih]
      simp only [Glob.acceptsAny, List.any_cons]
      cases Glob.accepts g path <;> rfl
  exact hany

def pathBelow (root file : Path) : Text := ((file.relativeTo? root).getD file).toText

def wants (e : Excluder) (includes excludes : List Text) (file : Path) : Bool :=
  isSourceName file && !e.excludes file && !Glob.acceptsAny excludes (pathBelow e.root file) &&
    Glob.acceptsAny includes (pathBelow e.root file)

theorem isWanted_texts (e : Excluder) (includes excludes : List Text) (file : Path) :
    isWanted e (.texts includes) (.texts excludes) file = .ok (wants e includes excludes file) := by
  have hexcludes : (Json.Value.texts excludes).isFalsy = excludes.isEmpty := by
    rw [Json.Value.texts, Json.Value.isFalsy, List.isEmpty_map]
  rw [isWanted, wants, ← pathBelow]
  simp only [accepts_texts, hexcludes]
  cases isSourceName file
  · rfl
  cases e.excludes file
  · cases excludes with
    | nil => rfl
    | cons g excludes =>
      cases Glob.acceptsAny (g :: excludes) (pathBelow e.root file) <;> rfl
  · rfl

end Verdicts

section Selection

variable {tree tree' : Tree} {root : Path} {includeIgnored : Bool} {e : Excluder}
variable {includes excludes : List Text}

theorem findSources_texts (hload : Excluder.load tree root includeIgnored [] = .ok e)
    (includes excludes : List Text) :
    findSources tree root (.texts includes) (.texts excludes) includeIgnored =
      .ok ((((tree.below root.parts).mergeSort Location.le).map (Path.mk root.root)).filter
        (wants e includes excludes)) := by
  rw [findSources, hload]
  exact Lists.filterM_eq_ok (isWanted_texts e includes excludes) _

def fileBelow (root : Path) (below : Location) : Path := ⟨root.root, root.parts ++ below⟩

theorem pathBelow_fileBelow (root : Path) (below : Location) :
    pathBelow root (fileBelow root below) = Path.toText ⟨[], below⟩ := by
  have hprefix : root.parts.isPrefixOf (root.parts ++ below) = true :=
    List.isPrefixOf_iff_prefix.mpr (List.prefix_append _ _)
  simp [pathBelow, fileBelow, Path.relativeTo?, hprefix]

/-- What is wanted of a location below the root of a project: a file with the suffix of a source,
which the rules do not leave aside, and whose path fits some include and no exclude. -/
structure IsWantedBelow (tree : Tree) (e : Excluder) (includes excludes : List Text)
    (below : Location) : Prop where
  nonempty : below ≠ []
  isFile : tree.isFile (e.root.parts ++ below) = true
  extension : Source.extensionOf (fileBelow e.root below) ∈ Source.extensions.map Text.ofString
  kept : e.excludes (fileBelow e.root below) = false
  included : ∃ g ∈ includes, Glob.accepts g (Path.toText ⟨[], below⟩) = true
  notExcluded : ∀ g ∈ excludes, Glob.accepts g (Path.toText ⟨[], below⟩) = false

theorem wants_fileBelow_iff {below : Location} :
    wants e includes excludes (fileBelow e.root below) = true ↔
      Source.extensionOf (fileBelow e.root below) ∈ Source.extensions.map Text.ofString ∧
      e.excludes (fileBelow e.root below) = false ∧
      (∃ g ∈ includes, Glob.accepts g (Path.toText ⟨[], below⟩) = true) ∧
      ∀ g ∈ excludes, Glob.accepts g (Path.toText ⟨[], below⟩) = false := by
  simp only [wants, isSourceName, pathBelow_fileBelow, Glob.acceptsAny, Bool.and_eq_true,
    Bool.not_eq_true', List.contains_iff_mem, List.any_eq_true, List.any_eq_false,
    Bool.not_eq_true]
  tauto

/-- Where the rules of the project's ignore files are well formed, exactly the wanted files are
found, each once and in the order of their locations. The order in which the tree names its files
makes no difference, and all that is found is found with the ignored files too. -/
theorem findSources_selects (htree : tree.HasDistinctFiles)
    (hload : Excluder.load tree root includeIgnored [] = .ok e) (includes excludes : List Text) :
    ∃ found, findSources tree root (.texts includes) (.texts excludes) includeIgnored = .ok found ∧
      found.Nodup ∧ found.Pairwise (fun p q ↦ Location.Precedes p.parts q.parts) ∧
      (∀ p, p ∈ found ↔
        ∃ below, p = fileBelow root below ∧ IsWantedBelow tree e includes excludes below) ∧
      (∀ tree' : Tree, tree.SameEntries tree' →
        findSources tree' root (.texts includes) (.texts excludes) includeIgnored = .ok found) ∧
      ∃ all, findSources tree root (.texts includes) (.texts excludes) true = .ok all ∧
        found.Sublist all := by
  obtain rfl : e.root = root := (Ignore.rulesOf_of_load hload).1
  have hpairwise : ((((tree.below e.root.parts).mergeSort Location.le).map
      (Path.mk e.root.root)).filter (wants e includes excludes)).Pairwise
        (fun p q ↦ Location.Precedes p.parts q.parts) := by
    apply List.Pairwise.filter
    rw [List.pairwise_map]
    exact Tree.pairwise_mergeSort_below htree e.root.parts
  refine ⟨_, findSources_texts hload includes excludes, ?_, hpairwise, ?_, ?_, ?_⟩
  · exact hpairwise.imp fun h heq ↦ h.ne (congrArg Path.parts heq)
  · intro p
    rw [List.mem_filter, List.mem_map]
    constructor
    · rintro ⟨⟨l, hl, rfl⟩, hwants⟩
      obtain ⟨hfile, below, hne, rfl⟩ := Tree.mem_mergeSort_below.mp hl
      obtain ⟨hext, hkept, hinc, hexc⟩ := wants_fileBelow_iff.mp hwants
      exact ⟨below, rfl, hne, hfile, hext, hkept, hinc, hexc⟩
    · rintro ⟨below, rfl, h⟩
      refine ⟨⟨_, Tree.mem_mergeSort_below.mpr ⟨h.isFile, below, h.nonempty, rfl⟩, rfl⟩, ?_⟩
      exact wants_fileBelow_iff.mpr ⟨h.extension, h.kept, h.included, h.notExcluded⟩
  · intro tree' hsame
    have hload' := (Excluder.load_eq hsame htree e.root includeIgnored []).symm.trans hload
    rw [findSources_texts hload', hsame.mergeSort_below_eq]
  · have hall : Excluder.load tree e.root true [] = .ok ⟨e.root, [], [], []⟩ := rfl
    refine ⟨_, findSources_texts hall includes excludes, List.monotone_filter_right _ ?_⟩
    intro p hp
    rw [wants, Excluder.excludes_of_no_rules rfl]
    rw [wants] at hp
    simp only [Bool.and_eq_true] at hp ⊢
    exact ⟨⟨⟨hp.1.1.1, rfl⟩, hp.1.2⟩, hp.2⟩

def unorderedTree : Tree :=
  ⟨[(["p", "src-x", "a.ts"], []), (["p", "src", "z.js"], []),
    (["p", ".gitignore"], Encoding.encode "gen\n".toList), (["p", "gen", "api.js"], []),
    (["p", "src", "b.min.js"], []), (["p", "dist", "a.js"], []), (["p", "src", "b.JSX"], [])], [], []⟩

/-- The files of `unorderedTree` in the order of their locations, which is not that of their paths as
texts: a hyphen stands before a slash. -/
def orderedFiles : List Location :=
  [["p", ".gitignore"], ["p", "dist", "a.js"], ["p", "gen", "api.js"], ["p", "src", "b.JSX"],
   ["p", "src", "b.min.js"], ["p", "src", "z.js"], ["p", "src-x", "a.ts"]]

theorem findSources_unorderedTree : unorderedTree.HasDistinctFiles ∧
    ∃ e, Excluder.load unorderedTree Ignore.projectRoot false [] = .ok e ∧
      ∃ found, findSources unorderedTree Ignore.projectRoot (.texts ["src*"]) (.texts ["**/*.min.js"])
          false = .ok found ∧
        found.map Path.toText = [Text.ofString "/p/src/b.JSX", "/p/src/z.js", "/p/src-x/a.ts"] ∧
        found.Pairwise (fun p q ↦ Location.Precedes p.parts q.parts) := by
  have hdistinct : unorderedTree.HasDistinctFiles := by decide
  have hordered : (unorderedTree.below Ignore.projectRoot.parts).mergeSort Location.le =
      orderedFiles :=
    Tree.mergeSort_below_eq_of_perm (by decide +kernel) (by decide +kernel)
  have hrun : (Excluder.load unorderedTree Ignore.projectRoot false []).toOption.map
      (fun e ↦ ((orderedFiles.map (Path.mk Ignore.projectRoot.root)).filter
        (wants e ["src*"] ["**/*.min.js"])).map Path.toText) =
      some [Text.ofString "/p/src/b.JSX", "/p/src/z.js", "/p/src-x/a.ts"] := by
    decide +kernel
  cases hload : Excluder.load unorderedTree Ignore.projectRoot false [] with
  | error b =>
    rw [hload] at hrun
    cases hrun
  | ok e =>
    rw [hload] at hrun
    have hfound := findSources_texts hload ["src*"] ["**/*.min.js"]
    obtain ⟨found, hok, -, hsorted, -⟩ := findSources_selects hdistinct hload ["src*"] ["**/*.min.js"]
    rw [hordered] at hfound
    obtain rfl := Except.ok.inj (hok.symm.trans hfound)
    exact ⟨hdistinct, e, rfl, _, hok, Option.some.inj hrun, hsorted⟩

end Selection

end Project

end PackageAudit
