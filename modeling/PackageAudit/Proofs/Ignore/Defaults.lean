import PackageAudit.Proofs.File.Tree
import PackageAudit.Proofs.Ignore.Exclusion

namespace PackageAudit.Ignore

section Names

variable {name t : Text}

def nameRule (name : Text) : Rule :=
  ⟨false, .pieces (.above :: (name.map .exactly ++ [.stop]))⟩

theorem isInner_of_mem_map_exactly : ∀ p ∈ name.map Piece.exactly, p.isInner = true := by
  intro p hp
  obtain ⟨c, -, rfl⟩ := List.mem_map.mp hp
  rfl

theorem takes_exactly_iff : Takes (name.map .exactly) t ↔ t = name := by
  induction name generalizing t with
  | nil =>
    constructor
    · intro h
      cases h
      rfl
    · rintro rfl
      exact .nil
  | cons c name ih =>
    constructor
    · intro h
      cases h with
      | cons hc hname => rw [show _ = [c] from hc, ih.mp hname, List.singleton_append]
    · rintro rfl
      exact .cons (u := [c]) rfl (ih.mpr rfl)

theorem isSome_fit_exactly_iff (hline : .char '\n' ∉ t) :
    (fit (name.map .exactly ++ [.stop]) t).isSome ↔
      ∃ v, t = name ++ v ∧ (v = [] ∨ ∃ w, v = .char '/' :: w) := by
  rw [isSome_fit_append_iff isInner_of_mem_map_exactly]
  constructor
  · rintro ⟨u, v, rfl, hu, hv⟩
    refine ⟨v, by rw [takes_exactly_iff.mp hu], ?_⟩
    rcases isSome_fit_stop_iff.mp hv with hv | rfl | hv
    · exact .inl hv
    · exact absurd (List.mem_append_right _ List.mem_cons_self) hline
    · exact .inr hv
  · rintro ⟨v, rfl, hv⟩
    exact ⟨name, v, rfl, takes_exactly_iff.mpr rfl, isSome_fit_stop_iff.mpr (hv.imp_right .inr)⟩

/-- A rule of a plain name fits the texts of which that name is a part. -/
theorem isSome_fit?_nameRule_iff (hname : .char '/' ∉ name) (hroot : t.head? ≠ some (.char '/'))
    (hline : .char '\n' ∉ t) :
    ((nameRule name).fit? t).isSome ↔ name ∈ Text.splitOn (.char '/') t := by
  rw [Text.mem_splitOn_iff, and_iff_right hname, Rule.fit?, nameRule]
  dsimp only
  rw [isSome_fit_above_iff]
  constructor
  · rintro (h | ⟨u, r, rfl, -, -, h⟩)
    · obtain ⟨v, rfl, hv⟩ := (isSome_fit_exactly_iff hline).mp h
      exact ⟨[], v, rfl, .inl rfl, hv⟩
    · have hr : .char '\n' ∉ r := fun hmem ↦
        hline (List.mem_append_right u (List.mem_cons_of_mem _ hmem))
      obtain ⟨v, rfl, hv⟩ := (isSome_fit_exactly_iff hr).mp h
      exact ⟨u ++ [.char '/'], v, by simp, .inr ⟨u, rfl⟩, hv⟩
  · rintro ⟨u, v, rfl, rfl | ⟨w, rfl⟩, hv⟩
    · exact .inl ((isSome_fit_exactly_iff hline).mpr ⟨v, rfl, hv⟩)
    · have hr : .char '\n' ∉ name ++ v := fun hmem ↦ hline (List.mem_append_right _ hmem)
      refine .inr ⟨w, name ++ v, by simp, ?_, ?_, (isSome_fit_exactly_iff hr).mpr ⟨v, rfl, hv⟩⟩
      · rintro rfl
        exact hroot rfl
      · intro c hc
        refine decide_eq_true ?_
        rintro rfl
        exact hline (List.mem_append_left _ (List.mem_append_left _ hc))

theorem ignores_nameRules_iff {names : List Text} (hnames : ∀ name ∈ names, .char '/' ∉ name)
    (hroot : t.head? ≠ some (.char '/')) (hline : .char '\n' ∉ t) :
    ignores (names.map nameRule) t = true ↔ ∃ name ∈ names, name ∈ Text.splitOn (.char '/') t := by
  have hpositive : ∀ rule ∈ names.map nameRule, rule.negated = false := by
    intro rule hrule
    obtain ⟨name, -, rfl⟩ := List.mem_map.mp hrule
    rfl
  rw [ignores_of_positive hpositive, List.any_map, List.any_eq_true]
  refine exists_congr fun name ↦ and_congr_right fun hname ↦ ?_
  exact isSome_fit?_nameRule_iff (hnames name hname) hroot hline

end Names

section Parts

open PackageAudit.Path (dot)

variable {t : Text} {parts : List Text}

theorem splitOn_toText (h : ∀ part ∈ parts, .char '/' ∉ part ∧ part ≠ []) :
    Text.splitOn (.char '/') (Path.toText ⟨[], parts⟩) = if parts = [] then [[dot]] else parts := by
  split
  · rename_i hnil
    rw [hnil]
    rfl
  · rename_i hne
    have hjoin := Text.splitOn_joinWith hne fun part hpart ↦ (h part hpart).1
    rw [Path.toText, List.nil_append]
    split
    · rename_i hempty
      have hempty' : Text.joinWith [.char '/'] parts = [] := hempty
      rw [hempty'] at hjoin
      obtain rfl : parts = [[]] := hjoin.symm
      exact absurd rfl (h [] (List.mem_singleton_self _)).2
    · exact hjoin

theorem not_mem_toText {c : CodePoint} (hslash : c ≠ .char '/') (hdot : c ≠ dot)
    (hproper : ∀ part ∈ parts, .char '/' ∉ part ∧ part ≠ []) (h : ∀ part ∈ parts, c ∉ part) :
    c ∉ Path.toText ⟨[], parts⟩ := by
  intro hc
  have hstretch : [c] <:+: Path.toText ⟨[], parts⟩ := by
    obtain ⟨u, v, huv⟩ := List.append_of_mem hc
    exact ⟨u, v, by simp [huv]⟩
  obtain ⟨piece, hpiece, hin⟩ := Text.exists_mem_splitOn_of_isInfix
    (c := .char '/') (by simpa using hslash.symm) hstretch
  have hc' : c ∈ piece := hin.subset (List.mem_singleton_self c)
  rw [splitOn_toText hproper] at hpiece
  split at hpiece
  · rw [List.mem_singleton.mp hpiece, List.mem_singleton] at hc'
    exact hdot hc'
  · exact h piece hpiece hc'

theorem head?_toText_ne (h : ∀ part ∈ parts, .char '/' ∉ part ∧ part ≠ []) :
    (Path.toText ⟨[], parts⟩).head? ≠ some (.char '/') := by
  intro hhead
  have hnil : [] ∈ Text.splitOn (.char '/') (Path.toText ⟨[], parts⟩) := by
    obtain ⟨r, hr⟩ := List.head?_eq_some_iff.mp hhead
    rw [hr, Text.splitOn, if_pos rfl]
    exact List.mem_cons_self
  rw [splitOn_toText h] at hnil
  split at hnil
  · exact absurd (List.mem_singleton.mp hnil) (List.cons_ne_nil _ _).symm
  · exact (h [] hnil).2 rfl

end Parts

section Exclusion

variable {tree : Tree} {root : Path} {t : Text}

theorem rulesOf_defaultPatterns : rulesOf (defaultPatterns.map Text.ofString) =
    .ok ((defaultPatterns.map Text.ofString).map nameRule) := by
  decide +kernel

theorem proper_of_mem_defaultPatterns : ∀ name ∈ defaultPatterns.map Text.ofString,
    .char '/' ∉ name ∧ name ≠ [] ∧ name ≠ [Path.dot] := by
  decide

theorem load_of_no_ignoreFiles (h : ∀ name ∈ ignoreFiles,
    tree.has (root.join (Path.ofText (Text.ofString name))) = false) :
    Excluder.load tree root false [] = .ok ⟨root, defaultPatterns.map Text.ofString,
      [Text.ofString "defaults"], (defaultPatterns.map Text.ofString).map nameRule⟩ := by
  have hnone : filePatterns tree root = [] := by
    rw [filePatterns, List.filterMap_eq_nil_iff]
    intro name hname
    obtain ⟨b, hb⟩ := Tree.readText_of_not_has (h name hname)
    dsimp only
    rw [hb]
  rw [Excluder.load, if_neg Bool.false_ne_true, hnone]
  simp only [List.flatMap_nil, List.append_nil, rulesOf_defaultPatterns]
  rfl

theorem relativeTo?_join (h : (Path.ofText t).isAbsolute = false) :
    (root.join (Path.ofText t)).relativeTo? root = some ⟨[], (Path.ofText t).parts⟩ := by
  have hbelow : root.parts.isPrefixOf (root.parts ++ (Path.ofText t).parts) = true :=
    List.isPrefixOf_iff_prefix.mpr (List.prefix_append _ _)
  rw [Path.join, h, if_neg Bool.false_ne_true, Path.relativeTo?]
  simp [hbelow]

theorem not_mem_parts_ofText {c : CodePoint} (h : c ∉ t) :
    ∀ part ∈ (Path.ofText t).parts, c ∉ part := by
  intro part hpart hc
  have hpiece := Text.isInfix_of_mem_splitOn part (List.mem_filter.mp hpart).1
  exact h (hpiece.subset hc)

theorem mem_parts_ofText_iff {name : Text} (hne : name ≠ []) (hdot : name ≠ [Path.dot]) :
    name ∈ (Path.ofText t).parts ↔ name ∈ Text.splitOn (.char '/') t := by
  have hkeep : (name != [] && name != [Path.dot]) = true := by simp [hne, hdot]
  exact List.mem_filter.trans (and_iff_left hkeep)

/-- The default rules ignore the path of a file just if they name one of its parts. -/
theorem ignores_toText_iff (hline : .char '\n' ∉ t) :
    ignores ((defaultPatterns.map Text.ofString).map nameRule)
        (Path.toText ⟨[], (Path.ofText t).parts⟩) = true ↔
      ∃ name ∈ defaultPatterns.map Text.ofString, name ∈ (Path.ofText t).parts := by
  have hproper : ∀ part ∈ (Path.ofText t).parts, .char '/' ∉ part ∧ part ≠ [] :=
    fun part hpart ↦ proper_of_mem_parts hpart
  have hline' : .char '\n' ∉ Path.toText ⟨[], (Path.ofText t).parts⟩ :=
    not_mem_toText (by decide) (by decide) hproper (not_mem_parts_ofText hline)
  rw [ignores_nameRules_iff (fun name h ↦ (proper_of_mem_defaultPatterns name h).1)
    (head?_toText_ne hproper) hline', splitOn_toText hproper]
  refine exists_congr fun name ↦ and_congr_right fun hname ↦ ?_
  split
  · rename_i hnil
    rw [hnil, List.mem_singleton]
    exact iff_of_false (proper_of_mem_defaultPatterns name hname).2.2 List.not_mem_nil
  · exact Iff.rfl

theorem ignores_part_iff (hline : .char '\n' ∉ t) {part : Text}
    (hpart : part ∈ (Path.ofText t).parts) :
    ignores ((defaultPatterns.map Text.ofString).map nameRule) part = true ↔
      part ∈ defaultPatterns.map Text.ofString := by
  obtain ⟨hslash, -⟩ := proper_of_mem_parts hpart
  have hroot : part.head? ≠ some (.char '/') := fun h ↦ hslash (List.mem_of_mem_head? h)
  rw [ignores_nameRules_iff (fun name h ↦ (proper_of_mem_defaultPatterns name h).1) hroot
    (not_mem_parts_ofText hline part hpart), Text.splitOn_of_not_mem hslash]
  simp only [List.mem_singleton, exists_eq_right]

/-- Without ignore files and further patterns, a file is left aside just if some part of its path
below the root is one of the default names. -/
theorem excludes_iff_default_part (h : ∀ name ∈ ignoreFiles,
    tree.has (root.join (Path.ofText (Text.ofString name))) = false) :
    ∃ e, Excluder.load tree root false [] = .ok e ∧
      ∀ t : Text, (Path.ofText t).isAbsolute = false → .char '\n' ∉ t →
        (e.excludes (root.join (Path.ofText t)) = true ↔
          ∃ name ∈ defaultPatterns.map Text.ofString, name ∈ Text.splitOn (.char '/') t) := by
  refine ⟨_, load_of_no_ignoreFiles h, fun t hrelative hline ↦ ?_⟩
  rw [excludes_eq rfl (relativeTo?_join hrelative), Bool.or_eq_true, ignores_toText_iff hline,
    List.any_eq_true]
  constructor
  · rintro (⟨name, hname, hpart⟩ | ⟨part, hpart, hignored⟩)
    · obtain ⟨-, hne, hdot⟩ := proper_of_mem_defaultPatterns name hname
      exact ⟨name, hname, (mem_parts_ofText_iff hne hdot).mp hpart⟩
    · have hpart' := List.dropLast_subset _ hpart
      have hname := (ignores_part_iff hline hpart').mp hignored
      obtain ⟨-, hne, hdot⟩ := proper_of_mem_defaultPatterns part hname
      exact ⟨part, hname, (mem_parts_ofText_iff hne hdot).mp hpart'⟩
  · rintro ⟨name, hname, hpart⟩
    obtain ⟨-, hne, hdot⟩ := proper_of_mem_defaultPatterns name hname
    exact .inl ⟨name, hname, (mem_parts_ofText_iff hne hdot).mpr hpart⟩

theorem excludes_iff_default_part_emptyProject :
    (∀ name ∈ ignoreFiles,
      Tree.has ⟨[], [], []⟩ (projectRoot.join (Path.ofText (Text.ofString name))) = false) ∧
    ∃ e, Excluder.load ⟨[], [], []⟩ projectRoot false [] = .ok e ∧
      (Path.ofText "web/.next/a.js").isAbsolute = false ∧
      .char '\n' ∉ Text.ofString "web/.next/a.js" ∧
      e.excludes (projectRoot.join (Path.ofText "web/.next/a.js")) = true ∧
      (Path.ofText "distribution/xnext/my.git/checkout").isAbsolute = false ∧
      .char '\n' ∉ Text.ofString "distribution/xnext/my.git/checkout" ∧
      e.excludes (projectRoot.join (Path.ofText "distribution/xnext/my.git/checkout")) = false := by
  have hnone : ∀ name ∈ ignoreFiles,
      Tree.has ⟨[], [], []⟩ (projectRoot.join (Path.ofText (Text.ofString name))) = false := by
    decide +kernel
  obtain ⟨e, hload, hexcludes⟩ := excludes_iff_default_part hnone
  have hpart : ∃ name ∈ defaultPatterns.map Text.ofString,
      name ∈ Text.splitOn (.char '/') "web/.next/a.js" := by decide +kernel
  have hpart' : ¬ ∃ name ∈ defaultPatterns.map Text.ofString,
      name ∈ Text.splitOn (.char '/') "distribution/xnext/my.git/checkout" := by decide +kernel
  refine ⟨hnone, e, hload, by decide, by decide, ?_, by decide, by decide, ?_⟩
  · exact (hexcludes _ (by decide) (by decide)).mpr hpart
  · rw [Bool.eq_false_iff]
    exact fun h ↦ hpart' ((hexcludes _ (by decide) (by decide)).mp h)

end Exclusion

end PackageAudit.Ignore
