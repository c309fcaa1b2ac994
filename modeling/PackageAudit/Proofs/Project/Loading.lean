import PackageAudit.Proofs.File.Written
import PackageAudit.Proofs.Lists
import PackageAudit.Proofs.Project.Discovery
import PackageAudit.Proofs.Text.CodePoint
import PackageAudit.Script.Rejection

namespace PackageAudit

namespace Script

variable {s : Source} {r : Rejection} {cs : List Char}

theorem reason_ne_unencodable (hs : s.content = Text.ofChars cs) (h : parse s = .error r) :
    r.reason ≠ .unencodable := by
  rw [parse, hs, Text.chars?_ofChars] at h
  dsimp only at h
  split at h
  · cases h
  · cases h
    dsimp only
    split <;> nofun

end Script

namespace Project

variable {tree : Tree} {root : Path} {includes excludes : Json.Value} {includeIgnored : Bool}
variable {found : List Path} {bytes : List UInt8}

theorem exists_content_of_findSources
    (hfound : findSources tree root includes excludes includeIgnored = .ok found) :
    ∀ file ∈ found, ∃ bytes, tree.content? file.parts = some bytes := by
  intro file hfile
  rw [findSources] at hfound
  cases hload : Ignore.Excluder.load tree root includeIgnored [] with
  | error b =>
    rw [hload] at hfound
    cases hfound
  | ok e =>
    rw [hload] at hfound
    obtain ⟨l, hl, rfl⟩ := List.mem_map.mp (Lists.mem_of_filterM_eq_ok hfound file hfile)
    obtain ⟨f, hf, rfl⟩ := List.mem_map.mp (List.mem_filter.mp (List.mem_mergeSort.mp hl)).1
    have hfind : (tree.files.find? (·.1 = f.1)).isSome :=
      List.find?_isSome.mpr ⟨f, hf, decide_eq_true rfl⟩
    obtain ⟨g, hg⟩ := Option.isSome_iff_exists.mp hfind
    exact ⟨g.2, by rw [Tree.content?, hg]; rfl⟩

/-- The content of a source that the octets of its file are loaded as. -/
structure IsLoaded (bytes : List UInt8) (content : Text) : Prop where
  /-- There are no surrogates and no carriage returns. -/
  encodable : ∃ cs, content = Text.ofChars cs ∧ '\r' ∉ cs
  /-- A text without carriage returns is loaded as it is, byte order marks included. -/
  text : ∀ cs, '\r' ∉ cs → bytes = Encoding.encode cs → content = Text.ofChars cs
  /-- Octets that are no text take nothing away from the texts around them. -/
  around : ∀ before octets behind,
    bytes = Encoding.encode before ++ (octets ++ Encoding.encode behind) →
      content = Text.ofChars (Encoding.unifyLines
        (before ++ (Encoding.decodeReplacing octets ++ behind)))

theorem isLoaded_decodeReplacing (bytes : List UInt8) :
    IsLoaded bytes (Text.ofChars (Encoding.unifyLines (Encoding.decodeReplacing bytes))) where
  encodable := ⟨_, rfl, Encoding.notMem_unifyLines _⟩
  text cs hcs hbytes := by
    have hdecode : Encoding.decodeReplacing (Encoding.encode cs) = cs := by
      have hbetween := Encoding.decodeReplacing_between cs [] []
      have hnone : Encoding.decodeReplacing [] = [] := rfl
      rw [hnone] at hbetween
      simpa [Encoding.encode] using hbetween
    rw [hbytes, hdecode, Encoding.unifyLines_eq hcs]
  around before octets behind hbytes := by
    rw [hbytes, Encoding.decodeReplacing_between]

/-- Whatever octets the files that are found hold, they are loaded as texts, which the reader never
rejects as unencodable. -/
theorem loadSources_encodable
    (hfound : findSources tree root includes excludes includeIgnored = .ok found) (base : Path) :
    List.Forall₂ (fun file source ↦ ∃ bytes, tree.content? file.parts = some bytes ∧
        IsLoaded bytes source.content ∧
        ∀ r, Script.parse source = .error r → r.reason ≠ .unencodable)
      found (loadSources tree base found) := by
  rw [loadSources, List.forall₂_map_right_iff, List.forall₂_same]
  intro file hfile
  obtain ⟨bytes, hbytes⟩ := exists_content_of_findSources hfound file hfile
  have hloaded := isLoaded_decodeReplacing bytes
  have hcontent : IsLoaded bytes (Text.ofChars (Encoding.unifyLines
      (Encoding.decodeReplacing ((tree.content? file.parts).getD [])))) := by
    rwa [hbytes, Option.getD_some]
  obtain ⟨cs, hcs, -⟩ := hcontent.encodable
  exact ⟨bytes, hbytes, hcontent, fun r hr ↦ Script.reason_ne_unencodable hcs hr⟩

def faultyTree : Tree :=
  ⟨[(["p", "a.js"], [0xEF, 0xBB, 0xBF, 0xED, 0xA0, 0x80, 0x61, 0x0D, 0x0A, 0xE2, 0x82, 0x62])], [], []⟩

theorem loadSources_encodable_faultyTree :
    ∃ found, findSources faultyTree Ignore.projectRoot (.texts ["**"]) (.texts []) true = .ok found ∧
      (loadSources faultyTree Ignore.projectRoot found).map Source.content =
        [Text.ofString "\ufeff\ufffd\ufffd\ufffda\n\ufffdb"] ∧
      List.Forall₂ (fun file source ↦ ∃ bytes, faultyTree.content? file.parts = some bytes ∧
        IsLoaded bytes source.content ∧
        ∀ r, Script.parse source = .error r → r.reason ≠ .unencodable)
        found (loadSources faultyTree Ignore.projectRoot found) := by
  have hload : Ignore.Excluder.load faultyTree Ignore.projectRoot true [] =
      .ok ⟨Ignore.projectRoot, [], [], []⟩ := rfl
  have hordered : (faultyTree.below Ignore.projectRoot.parts).mergeSort Location.le =
      [([Text.ofString "p", Text.ofString "a.js"] : Location)] := List.mergeSort_singleton _
  have hfound := findSources_texts hload ["**"] []
  rw [hordered] at hfound
  exact ⟨_, hfound, by decide +kernel, loadSources_encodable hfound Ignore.projectRoot⟩

end Project

end PackageAudit
