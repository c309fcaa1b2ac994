import Mathlib.Data.List.Induction
import PackageAudit.Ignore.Excluder
import PackageAudit.Proofs.Ignore.Fitting
import PackageAudit.Proofs.Lists
import PackageAudit.Proofs.Text.CodePoint

namespace PackageAudit.Ignore

section Rules

/-- A positive rule without a slash, except at its end: it names things at any depth. -/
def IsFloating (line : Text) : Prop :=
  (trimLine line).head? ≠ some (.char '!') ∧ .char '/' ∉ (trimLine line).dropLast

instance (line : Text) : Decidable (IsFloating line) :=
  inferInstanceAs (Decidable (_ ∧ _))

theorem isInner_of_bind {p : Piece} {x : Except Refusal (List Piece)} {ps : List Piece}
    (hp : p.isInner = true) (hx : ∀ qs, x = .ok qs → ∀ q ∈ qs, q.isInner = true)
    (h : (do return p :: (← x)) = Except.ok ps) : ∀ q ∈ ps, q.isInner = true := by
  obtain ⟨qs, hqs, heq⟩ := Lists.exists_of_bind_eq_ok h
  obtain rfl : p :: qs = ps := Except.ok.inj heq
  exact List.forall_mem_cons.mpr ⟨hp, hx qs hqs⟩

theorem isInner_of_segmentFrom {inside : ℕ} {t : Text} {ps : List Piece}
    (h : segmentFrom inside t = .ok ps) : ∀ p ∈ ps, p.isInner = true := by
  induction t generalizing inside ps with
  | nil =>
    obtain rfl : [] = ps := by simpa [segmentFrom] using h
    simp
  | cons c t ih =>
    cases inside with
    | succ inside => exact ih h
    | zero =>
      unfold segmentFrom at h
      split at h
      · split at h
        · cases h
        · exact isInner_of_bind rfl (fun qs hqs ↦ ih hqs) h
      split at h
      · exact isInner_of_bind rfl (fun qs hqs ↦ ih hqs) h
      split at h
      · exact isInner_of_bind rfl (fun qs hqs ↦ ih hqs) h
      split at h
      · split at h
        · cases h
        · exact isInner_of_bind rfl (fun qs hqs ↦ ih hqs) h
      exact isInner_of_bind rfl (fun qs hqs ↦ ih hqs) h

theorem isFloating_of_segment {s : Text} {shape : Shape} (hs : s ≠ [])
    (h : shapeOf false (squeeze (anchor [s])) = .ok shape) : shape.IsFloating := by
  by_cases hstars : s = twoStars
  · subst hstars
    obtain rfl : .everything = shape := Except.ok.inj h
    exact .everything
  by_cases hstar : s = star
  · subst hstar
    obtain rfl : .everything = shape := Except.ok.inj h
    exact .everything
  have hsegments : squeeze (anchor [s]) = [twoStars, s] := by
    simp [anchor, hstars, squeeze, hs]
  rw [hsegments, shapeOf] at h
  simp only [List.cons.injEq, hstar, if_false, reduceCtorEq, and_false, if_true, false_and] at h
  obtain ⟨ps, hps, h⟩ := Lists.exists_of_bind_eq_ok h
  obtain rfl := Except.ok.inj h
  simp only [piecesFrom, hstars, hstar, if_false] at hps
  obtain ⟨segment, hsegment, hps⟩ := Lists.exists_of_bind_eq_ok hps
  obtain rfl := Except.ok.inj hps
  exact .file (isInner_of_segmentFrom hsegment)

theorem isFloating_of_directory {s : Text} {shape : Shape} (hs : s ≠ [])
    (h : shapeOf true (squeeze (anchor [s, []])) = .ok shape) : shape.IsFloating := by
  by_cases hstars : s = twoStars
  · subst hstars
    obtain rfl : .allBelow true = shape := Except.ok.inj h
    exact .allBelow true
  by_cases hstar : s = star
  · subst hstar
    obtain rfl : .allBelow true = shape := Except.ok.inj h
    exact .allBelow true
  have hsegments : squeeze (anchor [s, []]) = [twoStars, s, twoStars] := by
    simp [anchor, hstars, squeeze]
  rw [hsegments, shapeOf] at h
  simp only [List.cons.injEq, hstar, if_false, reduceCtorEq, and_false, if_true, false_and] at h
  obtain ⟨ps, hps, h⟩ := Lists.exists_of_bind_eq_ok h
  obtain rfl := Except.ok.inj h
  simp only [piecesFrom, hstars, hstar, if_false, if_true] at hps
  obtain ⟨segment, hsegment, hps⟩ := Lists.exists_of_bind_eq_ok hps
  obtain rfl := Except.ok.inj hps
  exact .directory true (isInner_of_segmentFrom hsegment)

theorem splitOn_cases {t : Text} (h : .char '/' ∉ t.dropLast) :
    Text.splitOn (.char '/') t = [t] ∨
      ∃ s, t = s ++ [.char '/'] ∧ Text.splitOn (.char '/') t = [s, []] := by
  cases t using List.reverseRecOn with
  | nil => exact .inl rfl
  | append_singleton s c =>
    rw [List.dropLast_concat] at h
    by_cases hc : c = .char '/'
    · subst hc
      exact .inr ⟨s, rfl, Text.splitOn_append_singleton h⟩
    · refine .inl (Text.splitOn_of_not_mem ?_)
      rw [List.mem_append, List.mem_singleton, not_or]
      exact ⟨h, fun heq ↦ hc heq.symm⟩

theorem ofLine?_of_positive {line : Text} (h : (trimLine line).head? ≠ some (.char '!')) :
    Rule.ofLine? line =
      if (trimLine line).isEmpty || (trimLine line).head? = some (.char '#') ||
        trimLine line = [.char '/'] then .ok none
      else
        match shapeOf ((Text.splitOn (.char '/') (trimLine line)).getLast? = some [])
          (squeeze (anchor (Text.splitOn (.char '/') (trimLine line)))) with
        | .error .openBrackets => .ok none
        | .error .openEscape => .error .malformedRule
        | .ok shape => if shape.isFaulty then .error .emptyRange else .ok (some ⟨false, shape⟩) := by
  unfold Rule.ofLine?
  cases hbody : trimLine line with
  | nil => rfl
  | cons c r =>
    rw [hbody] at h
    dsimp only
    split
    · rfl
    · split
      · rename_i heq
        exact absurd (congrArg (·.head?) heq) h
      · rfl

theorem isFloating_of_ofLine? {line : Text} {rule : Rule} (hline : IsFloating line)
    (h : Rule.ofLine? line = .ok (some rule)) :
    rule.negated = false ∧ rule.shape.IsFloating := by
  obtain ⟨hbang, hslash⟩ := hline
  rw [ofLine?_of_positive hbang] at h
  split at h
  · cases h
  rename_i hbody
  simp only [Bool.or_eq_true, decide_eq_true_eq, not_or, List.isEmpty_iff] at hbody
  obtain ⟨⟨hempty, -⟩, hroot⟩ := hbody
  split at h
  · cases h
  · cases h
  rename_i shape hshape
  split at h
  · cases h
  obtain rfl := Option.some.inj (Except.ok.inj h)
  refine ⟨rfl, ?_⟩
  rcases splitOn_cases hslash with hsplit | ⟨s, hs, hsplit⟩
  · rw [hsplit] at hshape
    have htold : decide ([trimLine line].getLast? = some []) = false := by simpa using hempty
    rw [htold] at hshape
    exact isFloating_of_segment hempty hshape
  · rw [hsplit] at hshape
    refine isFloating_of_directory (fun hnil ↦ hroot ?_) hshape
    rw [hs, hnil, List.nil_append]

theorem exists_line_of_mem_rulesOf {lines : List Text} {rules : List Rule}
    (h : rulesOf lines = .ok rules) :
    ∀ rule ∈ rules, ∃ line ∈ lines, Rule.ofLine? line = .ok (some rule) := by
  induction lines generalizing rules with
  | nil =>
    obtain rfl := Except.ok.inj h
    simp
  | cons line lines ih =>
    obtain ⟨first, hfirst, h⟩ := Lists.exists_of_bind_eq_ok h
    obtain ⟨rest, hrest, h⟩ := Lists.exists_of_bind_eq_ok h
    obtain rfl : first.toList ++ rest = rules := Except.ok.inj h
    intro rule hrule
    rcases List.mem_append.mp hrule with hmem | hmem
    · obtain rfl : first = some rule := by simpa using hmem
      exact ⟨line, List.mem_cons_self, hfirst⟩
    · obtain ⟨l, hl, heq⟩ := ih hrest rule hmem
      exact ⟨l, List.mem_cons_of_mem line hl, heq⟩

theorem ignores_of_positive {rules : List Rule} (h : ∀ rule ∈ rules, rule.negated = false)
    (path : Text) : ignores rules path = rules.any fun rule ↦ (rule.fit? path).isSome := by
  have hverdict : ∀ (rules : List Rule), (∀ rule ∈ rules, rule.negated = false) →
      ∀ known : Option (Bool × Bool), known = known.map (true, ·.2) →
        (verdictFrom known rules path).any (·.1) =
          (known.isSome || rules.any fun rule ↦ (rule.fit? path).isSome) := by
    intro rules
    induction rules with
    | nil =>
      intro _ known hknown
      rw [hknown]
      cases known <;> rfl
    | cons rule rules ih =>
      intro hrules known hknown
      obtain ⟨hrule, hrules⟩ := List.forall_mem_cons.mp hrules
      rw [verdictFrom, ih hrules]
      · cases hfit : rule.fit? path with
        | none => simp [hfit]
        | some directory =>
          dsimp only
          split
          · rename_i hyield
            cases known with
            | none => simp at hyield
            | some verdict => rfl
          · simp [hfit]
      · cases hfit : rule.fit? path with
        | none => exact hknown
        | some directory =>
          dsimp only
          split
          · exact hknown
          · simp [hrule]
  exact (hverdict rules h none rfl).trans (by simp)

end Rules

section Paths

open PackageAudit.Path (slash)

theorem joinWith_split (above : List Text) (name : Text) {behind : List Text}
    (hbehind : behind ≠ []) :
    Text.joinWith [.char '/'] (above ++ name :: behind) =
      above.flatMap (· ++ [.char '/']) ++ (name ++ .char '/' :: Text.joinWith [.char '/'] behind) := by
  obtain ⟨next, rest, rfl⟩ := List.exists_cons_of_ne_nil hbehind
  induction above with
  | nil => simp [Text.joinWith]
  | cons first above ih =>
    have hcons : ∀ more : List Text, more ≠ [] → Text.joinWith [.char '/'] (first :: more) =
        first ++ [.char '/'] ++ Text.joinWith [.char '/'] more := by
      intro more hmore
      obtain ⟨a, as, rfl⟩ := List.exists_cons_of_ne_nil hmore
      rfl
    rw [List.cons_append, hcons _ (by simp), ih, List.flatMap_cons, List.append_assoc (first ++ _)]

theorem proper_of_mem_parts {t part : Text} (h : part ∈ (Path.ofText t).parts) :
    .char '/' ∉ part ∧ part ≠ [] := by
  obtain ⟨hmem, hproper⟩ := List.mem_filter.mp h
  rw [Bool.and_eq_true, bne_iff_ne] at hproper
  exact ⟨Text.not_mem_of_mem_splitOn part hmem, hproper.1⟩

theorem parts_of_relativeTo? {p base path : Path} (h : p.relativeTo? base = some path) :
    path.root = [] ∧ ∀ part ∈ path.parts, part ∈ p.parts := by
  rw [Path.relativeTo?] at h
  split at h
  · obtain rfl := Option.some.inj h
    exact ⟨rfl, fun part hpart ↦ List.mem_of_mem_drop hpart⟩
  · cases h

theorem toText_split {path : Path} {name : Text} (hroot : path.root = [])
    (hproper : ∀ part ∈ path.parts, part ≠ []) (h : name ∈ path.parts.dropLast) :
    ∃ before behind, path.toText = before ++ (name ++ .char '/' :: behind) ∧
      (before = [] ∨ ∃ t, t ≠ [] ∧ before = t ++ [.char '/']) := by
  obtain ⟨above, between, hsplit⟩ := List.append_of_mem h
  have hne : path.parts ≠ [] := fun hnil ↦ by simp [hnil] at h
  have hparts : path.parts = above ++ name :: (between ++ [path.parts.getLast hne]) := by
    rw [← List.cons_append, ← List.append_assoc, ← hsplit, List.dropLast_append_getLast]
  have htext : path.toText = above.flatMap (· ++ [.char '/']) ++ (name ++ .char '/' ::
      Text.joinWith [.char '/'] (between ++ [path.parts.getLast hne])) := by
    have hbehind : between ++ [path.parts.getLast hne] ≠ [] := by simp
    have hjoin := joinWith_split above name hbehind
    rw [← hparts] at hjoin
    rw [Path.toText, hroot, List.nil_append, Path.slash, hjoin]
    split
    · rename_i hnil
      simp at hnil
    · rfl
  refine ⟨_, _, htext, ?_⟩
  cases above using List.reverseRecOn with
  | nil => exact .inl rfl
  | append_singleton above last =>
    refine .inr ⟨above.flatMap (· ++ [.char '/']) ++ last, fun hnil ↦ ?_, by simp⟩
    have hlast : last = [] := (List.append_eq_nil_iff.mp hnil).2
    exact hproper last (by rw [hparts]; simp) hlast

end Paths

section Exclusion

variable {tree : Tree} {root path : Path} {includeIgnored : Bool} {extra : List Text} {e : Excluder}

theorem rulesOf_of_load (h : Excluder.load tree root includeIgnored extra = .ok e) :
    e.root = root ∧ rulesOf e.patterns = .ok e.rules := by
  rw [Excluder.load] at h
  split at h
  · obtain rfl := Except.ok.inj h
    exact ⟨rfl, rfl⟩
  · obtain ⟨rules, hrules, h⟩ := Lists.exists_of_bind_eq_ok h
    obtain rfl := Except.ok.inj h
    exact ⟨rfl, hrules⟩

theorem excludes_eq (h : e.root = root) {file : Path} (hpath : file.relativeTo? root = some path) :
    e.excludes file = (ignores e.rules path.toText || path.parts.dropLast.any (ignores e.rules)) := by
  rw [Excluder.excludes, h, hpath]

/-- Where all rules float, a directory whose name is ignored takes its files along. -/
theorem ignores_of_directory (hload : Excluder.load tree root includeIgnored extra = .ok e)
    (hfloating : ∀ line ∈ e.patterns, IsFloating line) {name before behind : Text}
    (hname : .char '/' ∉ name) (hlines : .char '\n' ∉ before ++ name)
    (hbefore : before = [] ∨ ∃ t, t ≠ [] ∧ before = t ++ [.char '/'])
    (h : ignores e.rules name = true) :
    ignores e.rules (before ++ (name ++ .char '/' :: behind)) = true := by
  have hrules : ∀ rule ∈ e.rules, rule.negated = false ∧ rule.shape.IsFloating := by
    intro rule hrule
    obtain ⟨line, hline, hrule⟩ := exists_line_of_mem_rulesOf (rulesOf_of_load hload).2 rule hrule
    exact isFloating_of_ofLine? (hfloating line hline) hrule
  have hpositive := fun rule hrule ↦ (hrules rule hrule).1
  rw [ignores_of_positive hpositive, List.any_eq_true] at h ⊢
  obtain ⟨rule, hrule, hfit⟩ := h
  exact ⟨rule, hrule, (hrules rule hrule).2.fits_below hname hlines hbefore hfit⟩

theorem ignores_of_mem_dropLast (hload : Excluder.load tree root includeIgnored extra = .ok e)
    (hfloating : ∀ line ∈ e.patterns, IsFloating line) {t name : Text}
    (hpath : (Path.ofText t).relativeTo? root = some path) (hline : .char '\n' ∉ path.toText)
    (hname : name ∈ path.parts.dropLast) (h : ignores e.rules name = true) :
    ignores e.rules path.toText = true := by
  obtain ⟨hroot, hparts⟩ := parts_of_relativeTo? hpath
  have hproper : ∀ part ∈ path.parts, .char '/' ∉ part ∧ part ≠ [] :=
    fun part hpart ↦ proper_of_mem_parts (hparts part hpart)
  obtain ⟨before, behind, htext, hbefore⟩ :=
    toText_split hroot (fun part hpart ↦ (hproper part hpart).2) hname
  have hslash : .char '/' ∉ name := (hproper name (List.dropLast_subset _ hname)).1
  rw [htext] at hline ⊢
  have hlines : .char '\n' ∉ before ++ name := by
    intro hmem
    apply hline
    rw [← List.append_assoc]
    exact List.mem_append_left _ hmem
  exact ignores_of_directory hload hfloating hslash hlines hbefore h

/-- Rules that all float leave a file aside just as they say of its whole path. Other rules do so
too, unless they do not ignore that path and ignore the bare name of a directory on the way. -/
theorem excludes_by_whole_path (hload : Excluder.load tree root includeIgnored extra = .ok e)
    (t : Text) (hpath : (Path.ofText t).relativeTo? root = some path) :
    ((∀ line ∈ e.patterns, IsFloating line) → .char '\n' ∉ path.toText →
      e.excludes (Path.ofText t) = ignores e.rules path.toText) ∧
    (ignores e.rules path.toText = true → e.excludes (Path.ofText t) = true) ∧
    (e.excludes (Path.ofText t) = ignores e.rules path.toText ↔
      (ignores e.rules path.toText = true ∨
        ∀ name ∈ path.parts.dropLast, ignores e.rules name = false)) := by
  rw [excludes_eq (rulesOf_of_load hload).1 hpath]
  have hiff : (ignores e.rules path.toText || path.parts.dropLast.any (ignores e.rules)) =
      ignores e.rules path.toText ↔ (ignores e.rules path.toText = true ∨
        ∀ name ∈ path.parts.dropLast, ignores e.rules name = false) := by
    cases ignores e.rules path.toText <;> simp
  refine ⟨fun hfloating hline ↦ hiff.mpr ?_, fun h ↦ by rw [h, Bool.true_or], hiff⟩
  by_cases hnames : ∀ name ∈ path.parts.dropLast, ignores e.rules name = false
  · exact .inr hnames
  · push Not at hnames
    obtain ⟨name, hname, hignored⟩ := hnames
    have hignored' : ignores e.rules name = true := Bool.not_eq_false _ ▸ hignored
    exact .inl (ignores_of_mem_dropLast hload hfloating hpath hline hname hignored')

theorem isFloating_of_mem_defaultPatterns :
    ∀ line ∈ defaultPatterns.map Text.ofString, IsFloating line := by decide

def projectRoot : Path := ⟨[.char '/'], ["p"]⟩

theorem excludes_by_whole_path_defaults : ∃ e : Excluder,
    Excluder.load ⟨[], [], []⟩ projectRoot false [] = .ok e ∧
      e.excludes (Path.ofText "/p/web/dist/a.js") = ignores e.rules "web/dist/a.js" := by
  have hrun : ((Excluder.load ⟨[], [], []⟩ projectRoot false []).toOption.map (·.patterns)) =
      some (defaultPatterns.map Text.ofString) := by decide +kernel
  cases hload : Excluder.load ⟨[], [], []⟩ projectRoot false [] with
  | error b =>
    rw [hload] at hrun
    cases hrun
  | ok e =>
    rw [hload] at hrun
    have hpatterns : e.patterns = defaultPatterns.map Text.ofString := Option.some.inj hrun
    have hpath : (Path.ofText "/p/web/dist/a.js").relativeTo? projectRoot =
        some ⟨[], ["web", "dist", "a.js"]⟩ := by decide
    obtain ⟨heq, -, -⟩ := excludes_by_whole_path hload "/p/web/dist/a.js" hpath
    exact ⟨e, rfl, heq (hpatterns ▸ isFloating_of_mem_defaultPatterns) (by decide)⟩

def rootedTree : Tree :=
  ⟨[(["p", ".gitignore"], Encoding.encode "/src\n".toList)], [], []⟩

/-- A rule that is bound to the root leaves a file aside because a deeper directory has its name. -/
theorem excludes_deeper_directory : ∃ e : Excluder,
    Excluder.load rootedTree projectRoot false [] = .ok e ∧
      e.excludes (Path.ofText "/p/lib/src/a.js") = true ∧
      ignores e.rules "lib/src/a.js" = false := by
  have hrun : ((Excluder.load rootedTree projectRoot false []).toOption.map fun e ↦
      (e.excludes (Path.ofText "/p/lib/src/a.js"), ignores e.rules "lib/src/a.js")) =
        some (true, false) := by decide +kernel
  cases hload : Excluder.load rootedTree projectRoot false [] with
  | error b =>
    rw [hload] at hrun
    cases hrun
  | ok e =>
    rw [hload] at hrun
    obtain ⟨hexcludes, hignores⟩ := Prod.mk.inj (Option.some.inj hrun)
    exact ⟨e, rfl, hexcludes, hignores⟩

end Exclusion

end PackageAudit.Ignore
