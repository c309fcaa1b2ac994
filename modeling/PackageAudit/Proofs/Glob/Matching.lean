import Mathlib.Data.List.TakeWhile
import PackageAudit.Glob.Pattern
import PackageAudit.Proofs.Text.Phrase

namespace PackageAudit.Glob

variable {g content rest t u v : Text} {ps qs : List Part}

/-- What may stand in brackets: a code point, which may be a closing bracket, and others, which may
not; all of it perhaps behind an exclamation mark. -/
inductive IsContent : Text → Prop
  | plain {c : CodePoint} {others : Text} (hc : c ≠ .char '!') (h : .char ']' ∉ others) :
      IsContent (c :: others)
  | negated {c : CodePoint} {others : Text} (h : .char ']' ∉ others) :
      IsContent (.char '!' :: c :: others)

/-- A pattern matches a text to its end. -/
inductive Matches : Text → Text → Prop
  | nil : Matches [] []
  | star {g u v : Text} (h : Matches g v) : Matches (.char '*' :: g) (u ++ v)
  | any {g r : Text} {c : CodePoint} (h : Matches g r) : Matches (.char '?' :: g) (c :: r)
  | set {content g r : Text} {c : CodePoint} (hcontent : IsContent content)
      (hc : (CharSet.ofContent content).contains c = true) (h : Matches g r) :
      Matches (.char '[' :: (content ++ .char ']' :: g)) (c :: r)
  | self {g r : Text} {c : CodePoint} (hstar : c ≠ .char '*') (hany : c ≠ .char '?')
      (hset : c = .char '[' → ∀ content behind, g = content ++ .char ']' :: behind →
        ¬ IsContent content) (h : Matches g r) :
      Matches (c :: g) (c :: r)

section Brackets

def closedContent? (head s : Text) : Option (Text × Text) :=
  match s.drop (s.takeWhile (· ≠ .char ']')).length with
  | _ :: rest => some (head ++ s.takeWhile (· ≠ .char ']'), rest)
  | [] => none

theorem closedContent?_eq_some_iff {head s : Text} :
    closedContent? head s = some (content, rest) ↔
      ∃ inside, .char ']' ∉ inside ∧ s = inside ++ .char ']' :: rest ∧ content = head ++ inside := by
  rcases Text.forall_or_first (· ≠ .char ']') s with hs | ⟨inside, c, behind, rfl, hinside, hc⟩
  · have hnone : closedContent? head s = none := by
      have htake : s.takeWhile (· ≠ .char ']') = s :=
        List.takeWhile_eq_self_iff.mpr fun c hc ↦ decide_eq_true (hs c hc)
      rw [closedContent?, htake, List.drop_length]
    rw [hnone]
    refine iff_of_false (by simp) ?_
    rintro ⟨inside, -, rfl, -⟩
    exact hs _ (List.mem_append_right _ List.mem_cons_self) rfl
  · obtain rfl := Decidable.not_not.mp hc
    have hinside : .char ']' ∉ inside := fun h ↦ hinside _ h rfl
    have hopen : ∀ c ∈ inside, decide (c ≠ .char ']') = true :=
      fun c hc ↦ decide_eq_true fun heq ↦ hinside (heq ▸ hc)
    have htake : (inside ++ .char ']' :: behind).takeWhile (· ≠ .char ']') = inside :=
      Text.takeWhile_of_first hopen rfl behind
    have hsome : closedContent? head (inside ++ .char ']' :: behind) =
        some (head ++ inside, behind) := by
      rw [closedContent?, htake, List.drop_left]
    rw [hsome, Option.some.injEq, Prod.mk.injEq]
    constructor
    · rintro ⟨rfl, rfl⟩
      exact ⟨inside, hinside, rfl, rfl⟩
    · rintro ⟨inside', hinside', heq, rfl⟩
      obtain ⟨rfl, -, rfl⟩ := Text.first_unique (P := (· ≠ .char ']'))
        (fun c hc heq ↦ hinside (heq ▸ hc)) (fun c hc heq ↦ hinside' (heq ▸ hc))
        (fun h ↦ h rfl) (fun h ↦ h rfl) heq
      exact ⟨rfl, rfl⟩

/-- How much of a text is content even where a closing bracket stands. -/
def headLength : Text → ℕ
  | .char '!' :: .char ']' :: _ => 2
  | .char '!' :: _ | .char ']' :: _ => 1
  | _ => 0

theorem bracketContent?_eq (t : Text) :
    bracketContent? t = closedContent? (t.take (headLength t)) (t.drop (headLength t)) := rfl

theorem headLength_cases (t : Text) :
    (∃ r, t = .char '!' :: .char ']' :: r ∧ headLength t = 2) ∨
      (∃ r, t = .char '!' :: r ∧ r.head? ≠ some (.char ']') ∧ headLength t = 1) ∨
      (∃ r, t = .char ']' :: r ∧ headLength t = 1) ∨
      t.head? ≠ some (.char '!') ∧ t.head? ≠ some (.char ']') ∧ headLength t = 0 := by
  unfold headLength
  split
  · exact .inl ⟨_, rfl, rfl⟩
  · rename_i r hr
    refine .inr (.inl ⟨r, rfl, fun h ↦ ?_, rfl⟩)
    obtain ⟨r', rfl⟩ := List.head?_eq_some_iff.mp h
    exact hr r' rfl
  · exact .inr (.inr (.inl ⟨_, rfl, rfl⟩))
  · rename_i hnegated hbang hbracket
    refine .inr (.inr (.inr ⟨fun h ↦ ?_, fun h ↦ ?_, rfl⟩)) <;>
      obtain ⟨r, rfl⟩ := List.head?_eq_some_iff.mp h
    · exact hbang r rfl
    · exact hbracket r rfl

/-- Brackets close at the first closing bracket that is not content. -/
theorem bracketContent?_eq_some_iff :
    bracketContent? t = some (content, rest) ↔
      t = content ++ .char ']' :: rest ∧ IsContent content := by
  rw [bracketContent?_eq, closedContent?_eq_some_iff]
  constructor
  · rintro ⟨inside, hinside, hdrop, rfl⟩
    refine ⟨by rw [List.append_assoc, ← hdrop, List.take_append_drop], ?_⟩
    rcases headLength_cases t with ⟨r, rfl, hlength⟩ | ⟨r, rfl, hr, hlength⟩ | ⟨r, rfl, hlength⟩ |
      ⟨hbang, hbracket, hlength⟩ <;> rw [hlength] at hdrop ⊢
    · exact .negated hinside
    · cases inside with
      | nil => exact absurd (congrArg List.head? hdrop) hr
      | cons c inside => exact .negated fun h ↦ hinside (List.mem_cons_of_mem c h)
    · exact .plain (by decide) hinside
    · cases inside with
      | nil => exact absurd (congrArg List.head? hdrop) hbracket
      | cons c inside =>
        refine .plain (fun hc ↦ hbang ?_) fun h ↦ hinside (List.mem_cons_of_mem c h)
        rw [← hc]
        exact congrArg List.head? hdrop
  · rintro ⟨rfl, hcontent⟩
    cases hcontent with
    | @plain c others hc h =>
      by_cases hbracket : c = .char ']'
      · subst hbracket
        exact ⟨others, h, rfl, rfl⟩
      · have hlength : headLength (c :: (others ++ .char ']' :: rest)) = 0 := by
          rw [headLength] <;> simp [hc, hbracket]
        rw [List.cons_append, hlength]
        refine ⟨c :: others, fun hmem ↦ ?_, rfl, rfl⟩
        exact (List.mem_cons.mp hmem).elim (fun heq ↦ hbracket heq.symm) h
    | @negated c others h =>
      by_cases hbracket : c = .char ']'
      · subst hbracket
        exact ⟨others, h, rfl, rfl⟩
      · have hlength : headLength (.char '!' :: c :: (others ++ .char ']' :: rest)) = 1 := by
          rw [headLength]
          simp [hbracket]
        rw [List.cons_append, List.cons_append, hlength]
        refine ⟨c :: others, fun hmem ↦ ?_, rfl, rfl⟩
        exact (List.mem_cons.mp hmem).elim (fun heq ↦ hbracket heq.symm) h

end Brackets

section Parts

theorem partsFrom_eq (inside : ℕ) (t : Text) : partsFrom inside t = parts (t.drop inside) := by
  induction t generalizing inside with
  | nil => cases inside <;> rfl
  | cons c t ih =>
    cases inside with
    | zero => rfl
    | succ inside => rw [partsFrom, ih, List.drop_succ_cons]

theorem parts_star (g : Text) : parts (.char '*' :: g) = .star :: parts g := by
  rw [parts, partsFrom, if_pos rfl]
  rfl

theorem parts_any (g : Text) : parts (.char '?' :: g) = .any :: parts g := by
  rw [parts, partsFrom, if_neg (by decide), if_pos rfl]
  rfl

theorem parts_set (h : IsContent content) (g : Text) :
    parts (.char '[' :: (content ++ .char ']' :: g)) = .set (.ofContent content) :: parts g := by
  have hdrop : (content ++ .char ']' :: g).drop (content.length + 1) = g := by
    rw [← List.drop_drop, List.drop_left, List.drop_one, List.tail_cons]
  rw [parts, partsFrom, if_neg (by decide), if_neg (by decide), if_pos rfl,
    bracketContent?_eq_some_iff.mpr ⟨rfl, h⟩]
  dsimp only
  rw [partsFrom_eq, hdrop]

theorem parts_self {c : CodePoint} (hstar : c ≠ .char '*') (hany : c ≠ .char '?')
    (hset : c = .char '[' → ∀ content behind, g = content ++ .char ']' :: behind →
      ¬ IsContent content) : parts (c :: g) = .exactly c :: parts g := by
  rw [parts, partsFrom, if_neg hstar, if_neg hany]
  split
  · rename_i hbracket
    split
    · rename_i content behind hcontent
      obtain ⟨heq, hcontent⟩ := bracketContent?_eq_some_iff.mp hcontent
      exact absurd hcontent (hset hbracket content behind heq)
    · rfl
  · rfl

theorem pattern_cases (g : Text) : g = [] ∨ (∃ g', g = .char '*' :: g') ∨ (∃ g', g = .char '?' :: g') ∨
    (∃ content g', g = .char '[' :: (content ++ .char ']' :: g') ∧ IsContent content) ∨
    ∃ c g', g = c :: g' ∧ c ≠ .char '*' ∧ c ≠ .char '?' ∧ (c = .char '[' →
      ∀ content behind, g' = content ++ .char ']' :: behind → ¬ IsContent content) := by
  cases g with
  | nil => exact .inl rfl
  | cons c g =>
    by_cases hstar : c = .char '*'
    · exact .inr (.inl ⟨g, by rw [hstar]⟩)
    by_cases hany : c = .char '?'
    · exact .inr (.inr (.inl ⟨g, by rw [hany]⟩))
    by_cases hset : c = .char '[' → ∀ content behind, g = content ++ .char ']' :: behind →
        ¬ IsContent content
    · exact .inr (.inr (.inr (.inr ⟨c, g, rfl, hstar, hany, hset⟩)))
    · push Not at hset
      obtain ⟨rfl, content, behind, rfl, hcontent⟩ := hset
      exact .inr (.inr (.inr (.inl ⟨content, behind, rfl, hcontent⟩)))

end Parts

section Matching

theorem afterSome_iff {rest : Text → Bool} :
    afterSome rest t = true ↔ ∃ u v, t = u ++ v ∧ rest v = true := by
  induction t with
  | nil => simp [afterSome]
  | cons c t ih =>
    rw [afterSome, Bool.or_eq_true, ih]
    constructor
    · rintro (h | ⟨u, v, rfl, h⟩)
      · exact ⟨[], _, rfl, h⟩
      · exact ⟨c :: u, v, rfl, h⟩
    · rintro ⟨u, v, heq, h⟩
      rcases List.cons_eq_append_iff.mp heq with ⟨rfl, rfl⟩ | ⟨u', rfl, rfl⟩
      · exact .inl h
      · exact .inr ⟨u', v, rfl, h⟩

theorem matchParts_star_iff :
    matchParts (.star :: ps) t = true ↔ ∃ u v, t = u ++ v ∧ matchParts ps v = true := by
  rw [matchParts, afterSome_iff]

theorem matchParts_cons_iff (p : Part) (hp : p ≠ .star) : matchParts (p :: ps) t = true ↔
    ∃ c r, t = c :: r ∧ p.accepts c = true ∧ matchParts ps r = true := by
  cases t <;> simp [matchParts]

theorem matchParts_squeeze (ps : List Part) (t : Text) :
    matchParts (squeeze ps) t = matchParts ps t := by
  induction ps using squeeze.induct generalizing t with
  | case1 ps ih =>
    rw [squeeze, ih, Bool.eq_iff_iff, matchParts_star_iff, matchParts_star_iff]
    simp only [matchParts_star_iff]
    constructor
    · rintro ⟨u, v, rfl, h⟩
      exact ⟨u, v, rfl, [], v, rfl, h⟩
    · rintro ⟨u, -, rfl, u', v, rfl, h⟩
      exact ⟨u ++ u', v, (List.append_assoc u u' v).symm, h⟩
  | case2 p ps hstars ih =>
    rw [squeeze.eq_2 p ps hstars, Bool.eq_iff_iff]
    by_cases hp : p = .star
    · subst hp
      simp only [matchParts_star_iff, ih]
    · simp only [matchParts_cons_iff p hp, ih]
  | case3 => rfl

/-- The pattern matches in the program just if it does as it is written. -/
theorem matches_iff : matches_ g t = true ↔ Matches g t := by
  rw [matches_, matchParts_squeeze]
  constructor
  · intro h
    -- Brackets take several code points off the pattern at once, hence the induction on its length.
    induction hlength : g.length using Nat.strong_induction_on generalizing g t with
    | _ n ih =>
      subst hlength
      rcases pattern_cases g with rfl | ⟨g, rfl⟩ | ⟨g, rfl⟩ | ⟨content, g, rfl, hcontent⟩ |
        ⟨c, g, rfl, hstar, hany, hset⟩
      · obtain rfl : t = [] := List.isEmpty_iff.mp h
        exact .nil
      · rw [parts_star, matchParts_star_iff] at h
        obtain ⟨u, v, rfl, h⟩ := h
        exact .star (ih _ (by simp) h rfl)
      · rw [parts_any, matchParts_cons_iff .any nofun] at h
        obtain ⟨c, r, rfl, -, h⟩ := h
        exact .any (ih _ (by simp) h rfl)
      · rw [parts_set hcontent, matchParts_cons_iff (.set _) nofun] at h
        obtain ⟨c, r, rfl, hc, h⟩ := h
        exact .set hcontent hc (ih _ (by simp; omega) h rfl)
      · rw [parts_self hstar hany hset, matchParts_cons_iff (.exactly c) nofun] at h
        obtain ⟨c', r, rfl, hc, h⟩ := h
        obtain rfl : c = c' := of_decide_eq_true hc
        exact .self hstar hany hset (ih _ (by simp) h rfl)
  · intro h
    induction h with
    | nil => rfl
    | star h ih => exact parts_star _ ▸ matchParts_star_iff.mpr ⟨_, _, rfl, ih⟩
    | any h ih => exact parts_any _ ▸ (matchParts_cons_iff .any nofun).mpr ⟨_, _, rfl, rfl, ih⟩
    | set hcontent hc h ih =>
      exact parts_set hcontent _ ▸ (matchParts_cons_iff (.set _) nofun).mpr ⟨_, _, rfl, hc, ih⟩
    | @self g r c hstar hany hset h ih =>
      have hc : Part.accepts (.exactly c) c = true := decide_eq_true rfl
      exact parts_self hstar hany hset ▸
        (matchParts_cons_iff (.exactly c) nofun).mpr ⟨c, r, rfl, hc, ih⟩

theorem matches_star_iff :
    Matches (.char '*' :: g) t ↔ ∃ u v, t = u ++ v ∧ Matches g v := by
  constructor
  · intro h
    cases h with
    | star h => exact ⟨_, _, rfl, h⟩
    | self hstar => exact absurd rfl hstar
  · rintro ⟨u, v, rfl, h⟩
    exact .star h

/-- Whether a code point stands for itself wherever it is written in a pattern. -/
def IsPlain (c : CodePoint) : Prop := c ≠ .char '*' ∧ c ≠ .char '?' ∧ c ≠ .char '['

instance : DecidablePred IsPlain := fun _ ↦ inferInstanceAs (Decidable (_ ∧ _))

theorem matches_cons_iff {c : CodePoint} (hc : IsPlain c) :
    Matches (c :: g) t ↔ ∃ r, t = c :: r ∧ Matches g r := by
  obtain ⟨hstar, hany, hset⟩ := hc
  constructor
  · intro h
    cases h with
    | star => exact absurd rfl hstar
    | any => exact absurd rfl hany
    | set => exact absurd rfl hset
    | self _ _ _ h => exact ⟨_, rfl, h⟩
  · rintro ⟨r, rfl, h⟩
    exact .self hstar hany (fun heq ↦ absurd heq hset) h

theorem matches_iff_of_isPlain (hg : ∀ c ∈ g, IsPlain c) : Matches g t ↔ t = g := by
  induction g generalizing t with
  | nil =>
    constructor
    · rintro ⟨⟩
      rfl
    · rintro rfl
      exact .nil
  | cons c g ih =>
    obtain ⟨hc, hg⟩ := List.forall_mem_cons.mp hg
    simp only [matches_cons_iff hc, ih hg, exists_eq_right]

theorem matches_star_iff_isSuffix (hg : ∀ c ∈ g, IsPlain c) :
    Matches (.char '*' :: g) t ↔ g <:+ t := by
  rw [matches_star_iff]
  simp only [matches_iff_of_isPlain hg, List.IsSuffix, eq_comm]
  constructor
  · rintro ⟨u, v, rfl, rfl⟩
    exact ⟨u, rfl⟩
  · rintro ⟨u, rfl⟩
    exact ⟨u, g, rfl, rfl⟩

theorem accepts_iff : accepts g t = true ↔
    Matches g t ∨ ∃ g', g = Text.ofString "**/" ++ g' ∧ Matches g' t := by
  rw [accepts.eq_def, Bool.or_eq_true, matches_iff]
  refine or_congr_right ?_
  split
  · rename_i g'
    rw [matches_iff]
    constructor
    · exact fun h ↦ ⟨g', rfl, h⟩
    · rintro ⟨g'', heq, h⟩
      have heq : Text.ofString "**/" ++ g' = Text.ofString "**/" ++ g'' := heq
      rwa [List.append_cancel_left heq]
  · rename_i hnone
    refine iff_of_false Bool.false_ne_true ?_
    rintro ⟨g', rfl, -⟩
    exact hnone g' rfl

/-- Two stars and a slash stand for any directories, or for none. -/
theorem accepts_anywhere_iff : accepts (Text.ofString "**/" ++ g) t = true ↔
    Matches g t ∨ ∃ above below, t = above ++ .char '/' :: below ∧ Matches g below := by
  have hstars : Matches (Text.ofString "**/" ++ g) t ↔
      ∃ above below, t = above ++ .char '/' :: below ∧ Matches g below := by
    have hslash : ∀ {t}, Matches (.char '/' :: g) t ↔ ∃ below, t = .char '/' :: below ∧
        Matches g below := matches_cons_iff (by decide)
    calc Matches (.char '*' :: .char '*' :: .char '/' :: g) t
        ↔ ∃ u v, t = u ++ v ∧ ∃ u' v', v = u' ++ v' ∧ ∃ below, v' = .char '/' :: below ∧
            Matches g below := by simp only [matches_star_iff, hslash]
      _ ↔ ∃ above below, t = above ++ .char '/' :: below ∧ Matches g below := by
          constructor
          · rintro ⟨u, -, rfl, u', -, rfl, below, rfl, h⟩
            exact ⟨u ++ u', below, (List.append_assoc u u' _).symm, h⟩
          · rintro ⟨above, below, rfl, h⟩
            exact ⟨above, _, rfl, [], _, rfl, below, rfl, h⟩
  rw [accepts_iff, hstars, or_comm]
  refine or_congr_left ?_
  constructor
  · rintro ⟨g', heq, h⟩
    rwa [List.append_cancel_left heq]
  · exact fun h ↦ ⟨g, rfl, h⟩

end Matching

end PackageAudit.Glob
