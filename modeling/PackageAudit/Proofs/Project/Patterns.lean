import PackageAudit.Project.Settings
import PackageAudit.Proofs.Glob.Matching
import PackageAudit.Proofs.Project.Discovery

namespace PackageAudit

namespace Path

variable {part stem tail : Text}

theorem suffixOf_cases (part : Text) : suffixOf part = [] ∨
    ∃ stem tail, part = stem ++ dot :: tail ∧ dot ∉ tail ∧ suffixOf part = dot :: tail := by
  rw [suffixOf]
  split
  · exact .inl rfl
  · rename_i hlong
    rw [Bool.or_eq_true, not_or, decide_eq_true_eq] at hlong
    refine .inr ?_
    rcases Text.forall_or_first (· ≠ dot) part.reverse with hall | ⟨u, c, v, hsplit, hu, hc⟩
    · have htake : part.reverse.takeWhile (· != dot) = part.reverse :=
        List.takeWhile_eq_self_iff.mpr fun c hc ↦ bne_iff_ne.mpr (hall c hc)
      rw [htake, List.length_reverse] at hlong
      omega
    · obtain rfl := Decidable.not_not.mp hc
      have htake : part.reverse.takeWhile (· != dot) = u := by
        rw [hsplit]
        exact Text.takeWhile_of_first (fun c hc ↦ bne_iff_ne.mpr (hu c hc)) rfl v
      have hpart : part = v.reverse ++ dot :: u.reverse := by
        rw [← List.reverse_reverse part, hsplit]
        simp
      exact ⟨v.reverse, u.reverse, hpart, fun hmem ↦ hu _ (List.mem_reverse.mp hmem) rfl,
        by rw [htake]⟩

theorem getLast?_isSuffix_joinWith {separator name : Text} {parts : List Text}
    (h : parts.getLast? = some name) : name <:+ Text.joinWith separator parts := by
  induction parts with
  | nil => cases h
  | cons first parts ih =>
    cases parts with
    | nil =>
      obtain rfl := Option.some.inj h
      exact List.suffix_rfl
    | cons next parts =>
      rw [List.getLast?_cons_cons] at h
      exact (ih h).trans (List.suffix_append _ _)

theorem name_isSuffix_toText (p : Path) : p.name <:+ p.toText := by
  cases hname : p.parts.getLast? with
  | none =>
    rw [name, hname]
    exact List.nil_suffix
  | some part =>
    have hjoin : part <:+ p.root ++ Text.joinWith [slash] p.parts :=
      (getLast?_isSuffix_joinWith hname).trans (List.suffix_append _ _)
    rw [name, hname, toText]
    split
    · rename_i hempty
      rw [hempty, List.suffix_nil] at hjoin
      rw [hjoin]
      exact List.nil_suffix
    · exact hjoin

theorem eq_of_isSuffix {t tail tail' : Text} (htail : dot ∉ tail) (htail' : dot ∉ tail')
    (h : dot :: tail <:+ t) (h' : dot :: tail' <:+ t) : tail = tail' := by
  obtain ⟨u, rfl⟩ := h
  obtain ⟨v, hv⟩ := h'
  -- Read from its end, the text has its first point where each of the two stretches starts.
  have hreverse : tail'.reverse ++ dot :: v.reverse = tail.reverse ++ dot :: u.reverse := by
    simpa using congrArg List.reverse hv
  obtain ⟨heq, -, -⟩ := Text.first_unique (P := (· ≠ dot))
    (fun c hc heq ↦ htail' (List.mem_reverse.mp (heq ▸ hc)))
    (fun c hc heq ↦ htail (List.mem_reverse.mp (heq ▸ hc))) (fun h ↦ h rfl) (fun h ↦ h rfl) hreverse
  exact (List.reverse_injective heq).symm

theorem isSuffix_toText_iff {p : Path} (hsuffix : p.suffix ≠ []) (htail : dot ∉ tail) :
    dot :: tail <:+ p.toText ↔ p.suffix = dot :: tail := by
  rcases suffixOf_cases p.name with hnone | ⟨stem, tail', hname, htail', hsome⟩
  · exact absurd hnone hsuffix
  have hend : dot :: tail' <:+ p.toText :=
    List.IsSuffix.trans ⟨stem, hname.symm⟩ (name_isSuffix_toText p)
  rw [suffix, hsome, List.cons.injEq, and_iff_right rfl]
  constructor
  · exact fun h ↦ eq_of_isSuffix htail' htail hend h
  · rintro rfl
    exact hend

end Path

namespace Project

variable {path : Text}

/-- Two stars and a slash in front of a pattern stand for any directories, or for none: the pattern
matches the path, or what stands behind one of its slashes. Of several patterns one is enough. -/
theorem accepts_behind_directories (path : Text) :
    (∀ g : Text, accepts (.texts [Text.ofString "**/" ++ g]) path = .ok true ↔
      Glob.Matches g path ∨
        ∃ above below, path = above ++ .char '/' :: below ∧ Glob.Matches g below) ∧
    ∀ patterns : List Text, ∃ accepted, accepts (.texts patterns) path = .ok accepted ∧
      (accepted = true ↔ ∃ g ∈ patterns, accepts (.texts [g]) path = .ok true) := by
  have hone : ∀ g : Text, accepts (.texts [g]) path = .ok true ↔ Glob.accepts g path = true := by
    intro g
    rw [accepts_texts, Glob.acceptsAny, Except.ok.injEq]
    simp
  refine ⟨fun g ↦ (hone _).trans Glob.accepts_anywhere_iff, fun patterns ↦ ?_⟩
  refine ⟨_, accepts_texts patterns path, ?_⟩
  simp only [hone, Glob.acceptsAny, List.any_eq_true]

theorem defaultIncludes_eq : Settings.defaultIncludes.map Text.ofString =
    (Source.extensions.map Text.ofString).map fun e ↦ Text.ofString "**/" ++ .char '*' :: e := by
  decide

theorem isPlain_of_mem_extensions : ∀ e ∈ Source.extensions.map Text.ofString,
    ∀ c ∈ e, Glob.IsPlain c := by decide

theorem extension_eq_cons : ∀ e ∈ Source.extensions.map Text.ofString,
    e = Path.dot :: e.tail ∧ Path.dot ∉ e.tail := by decide

theorem lower_extension : ∀ e ∈ Source.extensions.map Text.ofString, Text.lower e = e := by decide

theorem acceptsAny_defaultIncludes_iff :
    Glob.acceptsAny (Settings.defaultIncludes.map Text.ofString) path = true ↔
      ∃ e ∈ Source.extensions.map Text.ofString, e <:+ path := by
  rw [Glob.acceptsAny, defaultIncludes_eq, List.any_map, List.any_eq_true]
  refine exists_congr fun e ↦ and_congr_right fun he ↦ ?_
  have hplain := isPlain_of_mem_extensions e he
  rw [Function.comp_apply, Glob.accepts_anywhere_iff, Glob.matches_star_iff_isSuffix hplain,
    or_iff_left_of_imp]
  rintro ⟨above, below, rfl, hbelow⟩
  rw [Glob.matches_star_iff_isSuffix hplain] at hbelow
  exact hbelow.trans ((List.suffix_cons _ below).trans (List.suffix_append above _))

/-- The default patterns accept a source file just if its suffix is written in small letters. -/
theorem accepts_defaultIncludes {p : Path} (h : isSourceName p = true) :
    accepts (.texts (Settings.defaultIncludes.map Text.ofString)) p.toText =
      .ok (decide (Source.extensionOf p = p.suffix)) := by
  have hlower : Text.lower p.suffix ∈ Source.extensions.map Text.ofString :=
    List.contains_iff_mem.mp h
  have hsuffix : p.suffix ≠ [] := by
    intro hnil
    rw [hnil] at hlower
    exact absurd hlower (by decide)
  have hends : (∃ e ∈ Source.extensions.map Text.ofString, e <:+ p.toText) ↔
      p.suffix ∈ Source.extensions.map Text.ofString := by
    constructor
    · rintro ⟨e, he, hend⟩
      obtain ⟨hcons, htail⟩ := extension_eq_cons e he
      rw [hcons] at hend
      rw [(Path.isSuffix_toText_iff hsuffix htail).mp hend, ← hcons]
      exact he
    · intro hmem
      obtain ⟨hcons, htail⟩ := extension_eq_cons _ hmem
      exact ⟨_, hmem, hcons ▸ (Path.isSuffix_toText_iff hsuffix htail).mpr hcons⟩
  rw [accepts_texts, Except.ok.injEq, Bool.eq_iff_iff, acceptsAny_defaultIncludes_iff, hends,
    decide_eq_true_eq, Source.extensionOf]
  exact ⟨lower_extension _, fun heq ↦ heq ▸ hlower⟩

theorem accepts_defaultIncludes_deepPath :
    isSourceName ⟨[], ["src", "v1.JS", "app.test.mts"]⟩ = true ∧
      accepts (.texts (Settings.defaultIncludes.map Text.ofString))
        (Path.toText ⟨[], ["src", "v1.JS", "app.test.mts"]⟩) = .ok true := by
  have h : isSourceName ⟨[], ["src", "v1.JS", "app.test.mts"]⟩ = true := by decide
  exact ⟨h, (accepts_defaultIncludes h).trans (by decide)⟩

/-- A source file whose suffix has a capital letter is accepted by no default pattern. -/
theorem not_accepts_capital_suffix : isSourceName ⟨[], ["A.JS"]⟩ = true ∧
    accepts (.texts (Settings.defaultIncludes.map Text.ofString)) (Path.toText ⟨[], ["A.JS"]⟩) =
      .ok false := by
  decide

end Project

end PackageAudit
