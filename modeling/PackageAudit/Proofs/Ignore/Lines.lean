import PackageAudit.Proofs.File.Tree
import PackageAudit.Proofs.Ignore.Exclusion
import PackageAudit.Proofs.Lists
import PackageAudit.Proofs.Text.Blank

namespace PackageAudit.Ignore

open Text (isLineEnd trim trimEnd)

section Lines

variable {line u v : Text}

/-- The pattern that a line states. Blank lines and comments state none. -/
def statedBy (line : Text) : List Text :=
  if (trimLine line).isEmpty || (trimLine line).head? = some (.char '#') then [] else [trimLine line]

def ownPatterns (content : Text) : List Text :=
  (Text.splitOn (.char '\n') content).flatMap statedBy

/-- A pattern without blanks around it and without a line end inside. -/
structure IsProper (p : Text) : Prop where
  nonempty : p ≠ []
  first : ∀ c ∈ p.head?, c.isSpace = false
  last : ∀ c ∈ p.getLast?, c.isSpace = false
  line : ∀ c ∈ p, isLineEnd c = false

/-- A blank line, a comment that breaks into blank lines and comments, or a proper pattern with
blanks behind it, unless these are one space that a backslash keeps. -/
inductive IsPlain : Text → Prop
  | blank {line : Text} (hblank : ∀ c ∈ line, c.isSpace = true) : IsPlain line
  | comment {r : Text} (hlines : ∀ l ∈ Text.lines (.char '#' :: r),
      (∀ c ∈ l, c.isSpace = true) ∨ l.head? = some (.char '#')) : IsPlain (.char '#' :: r)
  | pattern {u v : Text} (hproper : IsProper u) (hhead : u.head? ≠ some (.char '#'))
      (hblank : ∀ c ∈ v, c.isSpace = true)
      (hkept : ¬ (u.getLast? = some (.char '\\') ∧ v = [.char ' '])) : IsPlain (u ++ v)

theorem trimLine_append (hblank : ∀ c ∈ v, c.isSpace = true)
    (hlast : ∀ c ∈ u.getLast?, c.isSpace = false) :
    trimLine (u ++ v) =
      if u.getLast? = some (.char '\\') ∧ v = [.char ' '] then u ++ v else u := by
  have htrim : trimEnd (u ++ v) = u := Text.trimEnd_append hblank hlast
  split
  · rename_i hkept
    obtain ⟨hu, rfl⟩ := hkept
    obtain ⟨s, rfl⟩ := List.getLast?_eq_some_iff.mp hu
    simp [trimLine]
  · rename_i hkept
    unfold trimLine
    split
    · rename_i r hr
      -- The last blank would be the only one, with the backslash in front of it.
      have hend : u ++ v = r.reverse ++ [.char '\\'] ++ [.char ' '] := by
        rw [← List.reverse_reverse (u ++ v), hr]
        simp
      refine absurd ?_ hkept
      cases v using List.reverseRecOn with
      | nil =>
        rw [List.append_nil] at hend
        exact absurd (hlast (.char ' ') (hend ▸ List.getLast?_concat)) (by decide)
      | append_singleton v d =>
        rw [← List.append_assoc] at hend
        obtain ⟨hend, hd⟩ := List.append_inj' hend rfl
        cases v using List.reverseRecOn with
        | nil =>
          rw [List.append_nil] at hend
          exact ⟨hend ▸ List.getLast?_concat, hd⟩
        | append_singleton v e =>
          rw [← List.append_assoc] at hend
          obtain ⟨-, he⟩ := List.append_inj' hend rfl
          obtain rfl := List.singleton_inj.mp he
          exact absurd (hblank (.char '\\') (by simp)) (by decide)
    · exact htrim

theorem isBlank_or_split (line : Text) : (∀ c ∈ line, c.isSpace = true) ∨
    ∃ u v, line = u ++ v ∧ u ≠ [] ∧ (∀ c ∈ u.getLast?, c.isSpace = false) ∧
      ∀ c ∈ v, c.isSpace = true := by
  by_cases hnil : line.rdropWhile (·.isSpace) = []
  · exact .inl (List.rdropWhile_eq_nil_iff.mp hnil)
  · refine .inr ⟨_, _, List.rdropWhile_append_rtakeWhile.symm, hnil, ?_, ?_⟩
    · intro c hc
      obtain ⟨hne, rfl⟩ := List.mem_getLast?_eq_getLast hc
      exact Bool.eq_false_iff.mpr (List.rdropWhile_last_not _ _ hne)
    · exact fun c hc ↦ List.mem_rtakeWhile_imp hc

/-- A blank line, a comment, or anything else with the blanks behind it. -/
theorem line_cases (line : Text) : (∀ c ∈ line, c.isSpace = true) ∨ (∃ r, line = .char '#' :: r) ∨
    ∃ u v, line = u ++ v ∧ u ≠ [] ∧ u.head? ≠ some (.char '#') ∧
      (∀ c ∈ u.getLast?, c.isSpace = false) ∧ ∀ c ∈ v, c.isSpace = true := by
  rcases isBlank_or_split line with hblank | ⟨u, v, rfl, hne, hlast, hblank⟩
  · exact .inl hblank
  · by_cases hhead : u.head? = some (.char '#')
    · obtain ⟨r, rfl⟩ := List.head?_eq_some_iff.mp hhead
      exact .inr (.inl ⟨r ++ v, rfl⟩)
    · exact .inr (.inr ⟨u, v, rfl, hne, hhead, hlast, hblank⟩)

theorem trimLine_of_isBlank (h : ∀ c ∈ line, c.isSpace = true) : trimLine line = [] := by
  have htrim := trimLine_append (u := []) h (fun c hc ↦ nomatch hc)
  rwa [List.nil_append, if_neg fun hkept ↦ nomatch hkept.1] at htrim

theorem trimLine_trimLine (line : Text) : trimLine (trimLine line) = trimLine line := by
  rcases isBlank_or_split line with hblank | ⟨u, v, rfl, hne, hlast, hblank⟩
  · rw [trimLine_of_isBlank hblank]
    rfl
  · rw [trimLine_append hblank hlast]
    split
    · rename_i hkept
      rw [trimLine_append hblank hlast, if_pos hkept]
    · have htrim := trimLine_append (u := u) (v := []) (fun c hc ↦ nomatch hc) hlast
      rwa [List.append_nil, if_neg fun hkept ↦ nomatch hkept.2] at htrim

theorem statedBy_of_isBlank (h : ∀ c ∈ line, c.isSpace = true) : statedBy line = [] := by
  rw [statedBy, trimLine_of_isBlank h]
  rfl

theorem statedBy_comment (r : Text) : statedBy (.char '#' :: r) = [] := by
  have hhead : (trimLine (.char '#' :: r)).head? = some (.char '#') := by
    rcases isBlank_or_split (.char '#' :: r) with hblank | ⟨u, v, hr, hne, hlast, hblank⟩
    · exact absurd (hblank _ List.mem_cons_self) (by decide)
    · obtain ⟨c, u, rfl⟩ := List.exists_cons_of_ne_nil hne
      obtain ⟨rfl, -⟩ := List.cons.inj hr
      rw [hr, trimLine_append hblank hlast]
      split <;> rfl
  rw [statedBy, hhead]
  simp

theorem statedBy_append (hblank : ∀ c ∈ v, c.isSpace = true) (hne : u ≠ [])
    (hhead : u.head? ≠ some (.char '#')) (hlast : ∀ c ∈ u.getLast?, c.isSpace = false) :
    statedBy (u ++ v) = [if u.getLast? = some (.char '\\') ∧ v = [.char ' '] then u ++ v else u] := by
  obtain ⟨c, u, rfl⟩ := List.exists_cons_of_ne_nil hne
  rw [statedBy, trimLine_append hblank hlast]
  split <;> simpa using hhead

end Lines

section Pieces

variable {content line u v : Text}

def states (l : Text) : Bool := !(trim l).isEmpty && l.head? ≠ some (.char '#')

theorem patternsOf_eq (content : Text) :
    patternsOf content = ((content.splitOnP isLineEnd).filter states).map trim := by
  have hnonempty : ∀ ls : List Text, ls.filter states = (ls.filter (!·.isEmpty)).filter states := by
    intro ls
    rw [List.filter_filter]
    apply List.filter_congr
    intro l _
    cases l with
    | nil => rfl
    | cons c l => simp
  have hlines : patternsOf content = ((Text.lines content).filter states).map trim := rfl
  rw [hlines, hnonempty, Text.filter_lines, ← hnonempty]

/-- A text is cut at its newlines first, and what lies between two of them at the other line ends.
-/
theorem splitOnP_isLineEnd (content : Text) : content.splitOnP isLineEnd =
    (Text.splitOn (.char '\n') content).flatMap (·.splitOnP isLineEnd) := by
  induction content with
  | nil => rfl
  | cons c r ih =>
    rw [List.splitOnP_cons_eq_if_modifyHead, ih]
    by_cases hc : c = .char '\n'
    · rw [Text.splitOn, if_pos hc, if_pos (hc ▸ rfl), List.flatMap_cons]
      rfl
    · obtain ⟨first, rest, hr⟩ : ∃ first rest, Text.splitOn (.char '\n') r = first :: rest := by
        rw [Text.splitOn_eq]
        exact List.exists_cons_of_ne_nil (List.splitOnP_ne_nil _ r)
      obtain ⟨piece, pieces, hfirst⟩ :=
        List.exists_cons_of_ne_nil (List.splitOnP_ne_nil isLineEnd first)
      rw [Text.splitOn_cons_of_ne hc hr, hr, List.flatMap_cons, List.flatMap_cons,
        List.splitOnP_cons_eq_if_modifyHead, hfirst]
      split <;> rfl

theorem patternsOf_eq_flatMap (content : Text) :
    patternsOf content = (Text.splitOn (.char '\n') content).flatMap patternsOf := by
  rw [patternsOf_eq, splitOnP_isLineEnd, List.filter_flatMap, List.map_flatMap, funext patternsOf_eq]

theorem trim_eq_nil_iff {l : Text} : trim l = [] ↔ ∀ c ∈ l, c.isSpace = true := by
  constructor
  · intro h
    obtain ⟨u, v, hl, hu, hv⟩ := Text.trim_split l
    rw [h, List.nil_append] at hl
    rw [hl]
    exact List.forall_mem_append.mpr ⟨hu, hv⟩
  · intro h
    have hstart : l.dropWhile (·.isSpace) = [] := List.dropWhile_eq_nil_iff.mpr h
    rw [Text.trim_eq, hstart]
    rfl

theorem states_eq_false_iff {l : Text} :
    states l = false ↔ (∀ c ∈ l, c.isSpace = true) ∨ l.head? = some (.char '#') := by
  rw [← trim_eq_nil_iff]
  simp [states]
  tauto

theorem patternsOf_append (hproper : IsProper u) (hhead : u.head? ≠ some (.char '#'))
    (hblank : ∀ c ∈ v, c.isSpace = true) : patternsOf (u ++ v) = [u] := by
  obtain ⟨first, rest, hv⟩ := List.exists_cons_of_ne_nil (List.splitOnP_ne_nil isLineEnd v)
  have hpieces : ∀ l ∈ first :: rest, ∀ c ∈ l, c.isSpace = true := by
    intro l hl c hc
    exact hblank c (Lists.mem_of_mem_splitOnP l (hv ▸ hl) c hc).1
  obtain ⟨hfirst, hrest⟩ := List.forall_mem_cons.mp hpieces
  have hsplit : (u ++ v).splitOnP isLineEnd = (u ++ first) :: rest :=
    Lists.splitOnP_append hproper.line hv
  have htrim : trim (u ++ first) = u :=
    Text.trim_append hfirst hproper.nonempty hproper.first hproper.last
  have hkeep : states (u ++ first) = true := by
    obtain ⟨c, r, rfl⟩ := List.exists_cons_of_ne_nil hproper.nonempty
    rw [states, htrim]
    simpa using hhead
  have hdrop : rest.filter states = [] :=
    List.filter_eq_nil_iff.mpr fun l hl ↦
      Bool.eq_false_iff.mp (states_eq_false_iff.mpr (.inl (hrest l hl)))
  rw [patternsOf_eq, hsplit, List.filter_cons_of_pos hkeep, hdrop, List.map_singleton, htrim]

theorem isProper_of_mem_patternsOf {p : Text} (h : p ∈ patternsOf content) : IsProper p := by
  rw [patternsOf_eq] at h
  obtain ⟨l, hl, rfl⟩ := List.mem_map.mp h
  obtain ⟨hl, hstates⟩ := List.mem_filter.mp hl
  constructor
  · intro hnil
    rw [states, hnil] at hstates
    cases hstates
  · exact Text.isSpace_of_mem_head?_trim
  · exact Text.isSpace_of_mem_getLast?_trim
  · exact fun c hc ↦ (Lists.mem_of_mem_splitOnP l hl c ((Text.trim_isInfix l).subset hc)).2

end Pieces

section Files

variable {content line : Text}

theorem isPlain_of_isProper (hne : statedBy line ≠ []) (h : ∀ p ∈ statedBy line, IsProper p) :
    IsPlain line := by
  rcases line_cases line with hblank | ⟨r, rfl⟩ | ⟨u, v, rfl, hu, hhead, hlast, hblank⟩
  · exact .blank hblank
  · exact absurd (statedBy_comment r) hne
  · have hproper := h _ (statedBy_append hblank hu hhead hlast ▸ List.mem_singleton_self _)
    split at hproper
    · rename_i hkept
      obtain ⟨-, rfl⟩ := hkept
      exact absurd (hproper.last (.char ' ') (by simp)) (by decide)
    · rename_i hkept
      exact .pattern hproper hhead hblank hkept

/-- The plain lines are those of which a file keeps just what they state. -/
theorem isPlain_iff : IsPlain line ↔ patternsOf line = statedBy line := by
  constructor
  · intro h
    cases h with
    | blank hblank =>
      rw [statedBy_of_isBlank hblank, patternsOf_eq, List.map_eq_nil_iff, List.filter_eq_nil_iff]
      intro l hl
      rw [Bool.not_eq_true, states_eq_false_iff]
      exact .inl fun c hc ↦ hblank c (Lists.mem_of_mem_splitOnP l hl c hc).1
    | comment hlines =>
      rw [statedBy_comment]
      refine List.map_eq_nil_iff.mpr (List.filter_eq_nil_iff.mpr fun l hl ↦ ?_)
      exact Bool.eq_false_iff.mp (states_eq_false_iff.mpr (hlines l hl))
    | pattern hproper hhead hblank hkept =>
      rw [patternsOf_append hproper hhead hblank,
        statedBy_append hblank hproper.nonempty hhead hproper.last, if_neg hkept]
  · intro h
    by_cases hnil : statedBy line = []
    · rcases line_cases line with hblank | ⟨r, rfl⟩ | ⟨u, v, rfl, hu, hhead, hlast, hblank⟩
      · exact .blank hblank
      · refine .comment fun l hl ↦ ?_
        rw [hnil] at h
        have hdropped := List.filter_eq_nil_iff.mp (List.map_eq_nil_iff.mp h) l hl
        exact states_eq_false_iff.mp (Bool.eq_false_iff.mpr hdropped)
      · rw [statedBy_append hblank hu hhead hlast] at hnil
        cases hnil
    · exact isPlain_of_isProper hnil fun p hp ↦ isProper_of_mem_patternsOf (h ▸ hp)

theorem patternsOf_eq_ownPatterns_iff : patternsOf content = ownPatterns content ↔
    ∀ line ∈ Text.splitOn (.char '\n') content, IsPlain line := by
  simp only [isPlain_iff]
  rw [patternsOf_eq_flatMap, ownPatterns]
  constructor
  · intro h
    refine Lists.forall_eq_of_flatMap_eq h fun line hline ↦ ?_
    by_cases hnil : statedBy line = []
    · exact .inr hnil
    · refine .inl (isPlain_iff.mp (isPlain_of_isProper hnil fun p hp ↦ ?_))
      have hmem : p ∈ patternsOf content := by
        rw [patternsOf_eq_flatMap, h]
        exact List.mem_flatMap.mpr ⟨line, hline, hp⟩
      exact isProper_of_mem_patternsOf hmem
  · exact fun h ↦ List.flatMap_congr h

end Files

section Rules

variable {line : Text}

theorem ofLine?_trimLine (line : Text) : Rule.ofLine? (trimLine line) = Rule.ofLine? line := by
  rw [Rule.ofLine?, Rule.ofLine?, trimLine_trimLine]

theorem ofLine?_of_statedBy_eq_nil (h : statedBy line = []) : Rule.ofLine? line = .ok none := by
  rw [statedBy] at h
  split at h
  · rename_i hnone
    have hhead : (trimLine line).head? ≠ some (.char '!') := by
      rcases Bool.or_eq_true_iff.mp hnone with hempty | hcomment
      · rw [List.isEmpty_iff.mp hempty]
        exact nofun
      · rw [of_decide_eq_true hcomment]
        decide
    rw [ofLine?_of_positive hhead, if_pos (by rw [hnone]; rfl)]
  · cases h

theorem rulesOf_append_congr {before lines lines' : List Text} (h : rulesOf lines = rulesOf lines') :
    rulesOf (before ++ lines) = rulesOf (before ++ lines') := by
  induction before with
  | nil => exact h
  | cons line before ih => rw [List.cons_append, List.cons_append, rulesOf, rulesOf, ih]

theorem rulesOf_flatMap_statedBy (lines : List Text) :
    rulesOf (lines.flatMap statedBy) = rulesOf lines := by
  induction lines with
  | nil => rfl
  | cons line lines ih =>
    rw [List.flatMap_cons]
    by_cases hnil : statedBy line = []
    · rw [hnil, List.nil_append, ih, rulesOf, ofLine?_of_statedBy_eq_nil hnil]
      cases rulesOf lines <;> rfl
    · have hstated : statedBy line = [trimLine line] := by
        rw [statedBy] at hnil ⊢
        split at hnil
        · exact absurd rfl hnil
        · rename_i hsome
          rw [if_neg hsome]
      rw [hstated, List.singleton_append, rulesOf, rulesOf, ofLine?_trimLine, ih]

end Rules

section Loading

variable {tree : Tree} {root : Path} {cs : List Char}

theorem load_of_gitignore
    (hread : tree.readText (root.join (Path.ofText (Text.ofString ".gitignore"))) = .ok cs)
    (hnone : tree.has (root.join (Path.ofText (Text.ofString ".eslintignore"))) = false) :
    Excluder.load tree root false [] =
      (rulesOf (defaultPatterns.map Text.ofString ++ patternsOf (Text.ofChars cs))).map fun rules ↦
        ⟨root, defaultPatterns.map Text.ofString ++ patternsOf (Text.ofChars cs),
          [Text.ofString "defaults",
            (root.join (Path.ofText (Text.ofString ".gitignore"))).toText], rules⟩ := by
  obtain ⟨b, hb⟩ := Tree.readText_of_not_has hnone
  have hfiles : filePatterns tree root =
      [(root.join (Path.ofText (Text.ofString ".gitignore")), patternsOf (Text.ofChars cs))] := by
    simp only [filePatterns, ignoreFiles, List.filterMap, hread, hb]
  rw [Excluder.load, if_neg Bool.false_ne_true, hfiles]
  simp only [List.append_nil, List.flatMap_cons, List.flatMap_nil]
  cases rulesOf (defaultPatterns.map Text.ofString ++ patternsOf (Text.ofChars cs)) <;> rfl

/-- The patterns of an ignore file are those that its lines state just if all lines are plain, and
then the rules, or the breakdown, are what the lines themselves give. -/
theorem load_rules_of_plain_lines
    (hread : tree.readText (root.join (Path.ofText (Text.ofString ".gitignore"))) = .ok cs)
    (hnone : tree.has (root.join (Path.ofText (Text.ofString ".eslintignore"))) = false) :
    (∀ e, Excluder.load tree root false [] = .ok e →
      (e.patterns = defaultPatterns.map Text.ofString ++ ownPatterns (Text.ofChars cs) ↔
        ∀ line ∈ Text.splitOn (.char '\n') (Text.ofChars cs), IsPlain line)) ∧
    ((∀ line ∈ Text.splitOn (.char '\n') (Text.ofChars cs), IsPlain line) →
      (Excluder.load tree root false []).map (·.rules) =
        rulesOf (defaultPatterns.map Text.ofString ++
          Text.splitOn (.char '\n') (Text.ofChars cs))) := by
  rw [load_of_gitignore hread hnone, ← patternsOf_eq_ownPatterns_iff]
  constructor
  · intro e he
    cases hrules : rulesOf (defaultPatterns.map Text.ofString ++ patternsOf (Text.ofChars cs)) with
    | error b =>
      rw [hrules] at he
      cases he
    | ok rules =>
      rw [hrules] at he
      obtain rfl := Except.ok.inj he
      exact List.append_right_inj _
  · intro hpatterns
    have hrules : rulesOf (defaultPatterns.map Text.ofString ++ patternsOf (Text.ofChars cs)) =
        rulesOf (defaultPatterns.map Text.ofString ++ Text.splitOn (.char '\n') (Text.ofChars cs)) := by
      rw [hpatterns]
      exact rulesOf_append_congr (rulesOf_flatMap_statedBy _)
    rw [hrules]
    cases rulesOf (defaultPatterns.map Text.ofString ++
      Text.splitOn (.char '\n') (Text.ofChars cs)) <;> rfl

def ignoringTree (content : String) : Tree :=
  ⟨[(["p", ".gitignore"], Encoding.encode content.toList)], [], []⟩

theorem load_rules_of_plain_lines_mixed :
    (ignoringTree "# logs\n*.log  \n!a.log").readText
        (projectRoot.join (Path.ofText (Text.ofString ".gitignore"))) =
      .ok "# logs\n*.log  \n!a.log".toList ∧
    (ignoringTree "# logs\n*.log  \n!a.log").has
        (projectRoot.join (Path.ofText (Text.ofString ".eslintignore"))) = false ∧
    (Excluder.load (ignoringTree "# logs\n*.log  \n!a.log") projectRoot false []).map (·.rules) =
      rulesOf (defaultPatterns.map Text.ofString ++ [("# logs" : Text), "*.log  ", "!a.log"]) := by
  have hread : (ignoringTree "# logs\n*.log  \n!a.log").readText
      (projectRoot.join (Path.ofText (Text.ofString ".gitignore"))) =
        .ok "# logs\n*.log  \n!a.log".toList := by decide +kernel
  have hnone : (ignoringTree "# logs\n*.log  \n!a.log").has
      (projectRoot.join (Path.ofText (Text.ofString ".eslintignore"))) = false := by decide +kernel
  have hlines : Text.splitOn (.char '\n') (Text.ofChars "# logs\n*.log  \n!a.log".toList) =
      [("# logs" : Text), "*.log  ", "!a.log"] := by decide +kernel
  refine ⟨hread, hnone, ?_⟩
  rw [← hlines]
  refine (load_rules_of_plain_lines hread hnone).2 ?_
  rw [hlines, List.forall_mem_cons, List.forall_mem_cons, List.forall_mem_singleton]
  refine ⟨.comment (by decide), ?_, ?_⟩
  · exact .pattern (u := "*.log") (v := "  ") ⟨by decide, by decide, by decide, by decide⟩ (by decide)
      (by decide) (by decide)
  · exact .pattern (u := "!a.log") (v := []) ⟨by decide, by decide, by decide, by decide⟩ (by decide)
      (by decide) (by decide)

/-- A space that a backslash keeps at the end of a line is lost, and the backslash is left over: no
excluder is made, though the lines state rules. -/
theorem load_rejects_kept_space :
    (rulesOf (defaultPatterns.map Text.ofString ++ Text.splitOn (.char '\n') "*.ts\\ \n")).map
        (ignores · "a.ts ") = .ok true ∧
    (Excluder.load (ignoringTree "*.ts\\ \n") projectRoot false []).map (·.patterns) =
      .error .malformedRule := by
  decide +kernel

end Loading

end PackageAudit.Ignore
