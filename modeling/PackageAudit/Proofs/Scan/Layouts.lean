import PackageAudit.Proofs.Text.Phrase
import PackageAudit.Scan.Phrases

namespace PackageAudit.Scan

open Text (Part Fits Found matchPhrase)

section Marks

def IsUnquoted (t : Text) : Prop := ∀ c ∈ t, isQuote c = false

def IsBlank (t : Text) : Prop := ∀ c ∈ t, c.isSpace = true

instance : DecidablePred IsUnquoted := fun t ↦
  inferInstanceAs (Decidable (∀ c ∈ t, isQuote c = false))

instance : DecidablePred IsBlank := fun t ↦ inferInstanceAs (Decidable (∀ c ∈ t, c.isSpace = true))

variable {q q' : CodePoint} {t u v s r m n : Text}

theorem isQuote_of_isSpace {c : CodePoint} (h : c.isSpace = true) : isQuote c = false := by
  cases hq : isQuote c with
  | false => rfl
  | true =>
    simp only [isQuote, Bool.or_eq_true, decide_eq_true_eq] at hq
    rcases hq with (rfl | rfl) | rfl <;> exact absurd h (by decide)

theorem IsBlank.isUnquoted (h : IsBlank t) : IsUnquoted t := fun c hc ↦ isQuote_of_isSpace (h c hc)

theorem IsUnquoted.append (ht : IsUnquoted t) (hu : IsUnquoted u) : IsUnquoted (t ++ u) := by
  intro c hc
  rcases List.mem_append.mp hc with hc | hc
  · exact ht c hc
  · exact hu c hc

theorem first_quote_unique (hm : IsUnquoted m) (hn : IsUnquoted n) (hq : isQuote q = true)
    (hq' : isQuote q' = true) (h : m ++ q :: s = n ++ q' :: r) : m = n ∧ q = q' ∧ s = r :=
  Text.first_unique hm hn (by rw [hq]; decide) (by rw [hq']; decide) h

theorem isUnquoted_or_first (t : Text) :
    IsUnquoted t ∨ ∃ m q s, t = m ++ q :: s ∧ IsUnquoted m ∧ isQuote q = true := by
  rcases Text.forall_or_first (isQuote · = false) t with ht | ⟨m, q, s, ht, hm, hq⟩
  · exact .inl ht
  · exact .inr ⟨m, q, s, ht, hm, Bool.of_not_eq_false hq⟩

end Marks

section Overlap

variable {b p o m n rest tail : Text} {q₁ q₂ q q' : CodePoint}

/-- Something is found that reaches beyond the text `b` into an import that starts there, with its
opening mark behind `o`. Then it has the specifier of the import, or its own opening mark is the
last one of `b`, or it has the opening mark of the import in front of its own. -/
theorem specifier_of_overlap (ho : IsUnquoted o) (hm : IsUnquoted m) (hn : IsUnquoted n)
    (hq₂ : isQuote q₂ = true) (hq' : isQuote q' = true)
    (hsplit : p ++ q₁ :: (n ++ q₂ :: rest) = b ++ (o ++ q :: (m ++ q' :: tail)))
    (hq₁ : isQuote q₁ = true) (hlong : b.length < (p ++ q₁ :: (n ++ [q₂])).length) :
    n = m ∨ (∃ c, b = p ++ q₁ :: c ∧ IsUnquoted c) ∨ ∃ s, p = b ++ (o ++ q :: s) := by
  have hnot : ∀ {u v : Text}, o ≠ u ++ q₁ :: v := by
    rintro u v rfl
    rw [ho q₁ (by simp)] at hq₁
    cases hq₁
  rw [← List.append_assoc b] at hsplit
  rcases List.append_eq_append_iff.mp hsplit with ⟨t, hp, hrest⟩ | ⟨t, hp, hrest⟩
  · cases t with
    | nil =>
      rw [List.nil_append, List.cons.injEq] at hrest
      exact .inl (first_quote_unique hn hm hq₂ hq' hrest.2).1
    | cons c t =>
      rw [List.cons_append, List.cons.injEq] at hrest
      obtain ⟨rfl, hrest⟩ := hrest
      rcases List.append_eq_append_iff.mp hp with ⟨u, -, ho'⟩ | ⟨u, hb, ho'⟩
      · exact absurd ho' hnot
      cases u with
      | nil => exact absurd ho'.symm (hnot (u := []))
      | cons d u =>
        rw [List.cons_append, List.cons.injEq] at ho'
        obtain ⟨rfl, rfl⟩ := ho'
        refine .inr (.inl ⟨u, hb, ?_⟩)
        rcases isUnquoted_or_first u with hu | ⟨k, r, w, rfl, hk, hr⟩
        · exact hu
        · have hrest' : n ++ q₂ :: rest = k ++ r :: (w ++ o ++ q :: (m ++ q' :: tail)) := by
            simpa using hrest
          obtain ⟨rfl, -⟩ := first_quote_unique hn hk hq₂ hr hrest'
          rw [hb] at hlong
          simp only [List.length_append, List.length_cons, List.length_nil] at hlong
          omega
  · cases t with
    | nil =>
      rw [List.nil_append, List.cons.injEq] at hrest
      exact .inl (first_quote_unique hm hn hq' hq₂ hrest.2).1.symm
    | cons c t =>
      rw [List.cons_append, List.cons.injEq] at hrest
      obtain ⟨rfl, -⟩ := hrest
      exact .inr (.inr ⟨t, by rw [hp, List.append_assoc]⟩)

end Overlap

section Layouts

inductive Quoted : Text → Text → Prop
  | intro {q q' : CodePoint} {m : Text} : isQuote q = true → isQuote q' = true → IsUnquoted m →
      m ≠ [] → Quoted (q :: (m ++ [q'])) m

inductive LeadsIn : Text → Prop
  | importFrom (a : Text) {g : Text} : IsBlank g → g ≠ [] → LeadsIn (a ++ ("from" ++ g))
  | bare (a : Text) {g : Text} : IsBlank g → g ≠ [] → LeadsIn (a ++ ("import" ++ g))
  | call (a : Text) {g g' : Text} : IsBlank g → IsBlank g' →
      LeadsIn (a ++ ("require" ++ (g ++ ("(" ++ g'))))

/-- The last quote mark of a text looks like the start of a specifier. -/
def EndsOpen (t : Text) : Prop :=
  ∃ a q c, t = a ++ q :: c ∧ isQuote q = true ∧ IsUnquoted c ∧ LeadsIn a

theorem IsUnquoted.not_endsOpen {t : Text} (h : IsUnquoted t) : ¬ EndsOpen t := by
  rintro ⟨a, q, c, rfl, hq, -⟩
  rw [h q (by simp)] at hq
  cases hq

/-- An import in a plain layout, with its specifier: white space where it is needed, and names on
one line and without quote marks. -/
inductive PlainImport : Text → Text → Prop
  | importFrom {g₁ clause g₂ g₃ quoted m : Text} (tail : Text) : IsBlank g₁ → g₁ ≠ [] →
      IsUnquoted clause → .char '\n' ∉ clause → (∀ c ∈ clause.head?, c.isSpace = false) →
      clause ≠ [] → IsBlank g₂ → g₂ ≠ [] → IsBlank g₃ → g₃ ≠ [] → Quoted quoted m →
      PlainImport ("import" ++ (g₁ ++ (clause ++ (g₂ ++ ("from" ++ (g₃ ++ (quoted ++ tail))))))) m
  | bare {g quoted m : Text} (tail : Text) : IsBlank g → g ≠ [] → Quoted quoted m →
      PlainImport ("import" ++ (g ++ (quoted ++ tail))) m
  | call {g₁ g₂ g₃ quoted m : Text} (tail : Text) : IsBlank g₁ → IsBlank g₂ → IsBlank g₃ →
      Quoted quoted m →
      PlainImport ("require" ++ (g₁ ++ ("(" ++ (g₂ ++ (quoted ++ (g₃ ++ (")" ++ tail))))))) m

/-- An import in one of the layouts that the scan looks for, with its specifier. -/
inductive Layout : Text → Text → Prop
  | importFrom {g₁ clause g₂ g₃ quoted m : Text} : IsBlank g₁ → g₁ ≠ [] → .char '\n' ∉ clause →
      IsBlank g₂ → g₂ ≠ [] → IsBlank g₃ → g₃ ≠ [] → Quoted quoted m →
      Layout ("import" ++ (g₁ ++ (clause ++ (g₂ ++ ("from" ++ (g₃ ++ quoted)))))) m
  | bare {g quoted m : Text} : IsBlank g → g ≠ [] → Quoted quoted m →
      Layout ("import" ++ (g ++ quoted)) m
  | call {g₁ g₂ g₃ quoted m : Text} : IsBlank g₁ → IsBlank g₂ → IsBlank g₃ → Quoted quoted m →
      Layout ("require" ++ (g₁ ++ ("(" ++ (g₂ ++ (quoted ++ (g₃ ++ ")")))))) m

def fromPhrase : List Part :=
  .exactly "import" :: gap 1 :: .short (· ≠ CodePoint.char '\n') :: gap 1 :: .exactly "from" ::
    gap 1 :: quotedSpecifier

def barePhrase : List Part := .exactly "import" :: gap 1 :: quotedSpecifier

def callPhrase : List Part :=
  .exactly "require" :: gap 0 :: .exactly "(" :: gap 0 ::
    (quotedSpecifier ++ [gap 0, .exactly ")"])

theorem importPhrases_eq : importPhrases = [fromPhrase, barePhrase, callPhrase] := rfl

variable {ps : List Part} {t u k m quoted : Text}

theorem fits_quoted (hquoted : Quoted quoted m) (h : Fits ps u k) :
    Fits (quotedSpecifier ++ ps) (quoted ++ u) (m ++ k) := by
  cases hquoted with
  | @intro q q' m hq hq' hm hne =>
    have hlong : (Part.long (fun c ↦ !isQuote c) 1 true).Takes m :=
      ⟨fun c hc ↦ by simp [hm c hc], List.length_pos_of_ne_nil hne⟩
    have hopen : (Part.one isQuote).Takes [q] := ⟨q, rfl, hq⟩
    have hclose : (Part.one isQuote).Takes [q'] := ⟨q', rfl, hq'⟩
    have hfits := Fits.cons hopen (.cons hlong (.cons hclose h))
    simpa [Part.keep, quotedSpecifier] using hfits

theorem quoted_of_fits (h : Fits (quotedSpecifier ++ ps) t k) :
    ∃ quoted m u k', t = quoted ++ u ∧ k = m ++ k' ∧ Quoted quoted m ∧ Fits ps u k' := by
  cases h with
  | cons hopen h =>
    cases h with
    | @cons _ _ m _ _ hlong h =>
      cases h with
      | @cons _ _ _ u k' hclose h =>
        obtain ⟨q, rfl, hq⟩ := hopen
        obtain ⟨q', rfl, hq'⟩ := hclose
        obtain ⟨hm, hleast⟩ := hlong
        refine ⟨q :: (m ++ [q']), m, u, k', by simp, by simp [Part.keep],
          .intro hq hq' (fun c hc ↦ by simpa using hm c hc) (List.ne_nil_of_length_pos hleast), h⟩

theorem fits_gap {least : ℕ} {g : Text} (hg : IsBlank g) (hleast : least ≤ g.length)
    (h : Fits ps u k) : Fits (gap least :: ps) (g ++ u) k := by
  have htakes : (gap least).Takes g := ⟨hg, hleast⟩
  exact .cons htakes h

theorem gap_of_fits {least : ℕ} (h : Fits (gap least :: ps) t k) :
    ∃ g u, t = g ++ u ∧ IsBlank g ∧ least ≤ g.length ∧ Fits ps u k := by
  cases h with
  | @cons _ _ g u k hg h => exact ⟨g, u, rfl, hg.1, hg.2, h⟩

theorem fits_exactly {w : String} (h : Fits ps u k) : Fits (.exactly w :: ps) (w ++ u) k := by
  have htakes : (Part.exactly w).Takes w := rfl
  exact .cons htakes h

theorem exactly_of_fits {w : String} (h : Fits (.exactly w :: ps) t k) :
    ∃ u, t = w ++ u ∧ Fits ps u k := by
  cases h with
  | @cons _ _ _ u k hw h =>
    obtain rfl := hw
    exact ⟨u, rfl, h⟩

theorem isUnquoted_ofString {w : String} (h : w ∈ ["import", "from", "require", "("]) :
    IsUnquoted w := by
  have hall : ∀ w ∈ ["import", "from", "require", "("], ∀ c ∈ Text.ofString w,
      isQuote c = false := by decide
  exact hall w h

theorem isUnquoted_import {g : Text} (hg : IsBlank g) : IsUnquoted ("import" ++ g) :=
  (isUnquoted_ofString (by simp)).append hg.isUnquoted

theorem isUnquoted_require {g g' : Text} (hg : IsBlank g) (hg' : IsBlank g') :
    IsUnquoted ("require" ++ (g ++ ("(" ++ g'))) :=
  (isUnquoted_ofString (by simp)).append
    (hg.isUnquoted.append ((isUnquoted_ofString (by simp)).append hg'.isUnquoted))

variable {a b p o n rest tail found : Text}

/-- Something found whose opening mark stands behind `p`, where the text above the import does not
end open: either it has the import's specifier, or it starts with more than leads in to a specifier.
-/
theorem specifier_eq_or (hopen : ¬ EndsOpen (a ++ b)) (ho : IsUnquoted o) (hfound : Quoted found n)
    (hquoted : Quoted quoted m) (hlead : LeadsIn (a ++ p))
    (hsplit : p ++ (found ++ rest) = b ++ (o ++ (quoted ++ tail)))
    (hlong : b.length < (p ++ found).length) :
    n = m ∨ ∃ q s r, p = b ++ (o ++ q :: s) ∧ isQuote q = true ∧ quoted = q :: r := by
  cases hfound with
  | @intro q₁ q₂ n hq₁ hq₂ hn _ =>
    cases hquoted with
    | @intro q q' m hq hq' hm _ =>
      have hsplit' : p ++ q₁ :: (n ++ q₂ :: rest) = b ++ (o ++ q :: (m ++ q' :: tail)) := by
        simpa using hsplit
      rcases specifier_of_overlap ho hm hn hq₂ hq' hsplit' hq₁ hlong with
        heq | ⟨c, hb, hc⟩ | ⟨s, hp⟩
      · exact .inl heq
      · refine absurd ⟨a ++ p, q₁, c, ?_, hq₁, hc, hlead⟩ hopen
        rw [hb, List.append_assoc]
      · exact .inr ⟨q, s, m ++ [q'], hp, hq, rfl⟩

theorem specifier_eq (hopen : ¬ EndsOpen (a ++ b)) (ho : IsUnquoted o) (hfound : Quoted found n)
    (hquoted : Quoted quoted m) (hlead : LeadsIn (a ++ p)) (hp : IsUnquoted p)
    (hsplit : p ++ (found ++ rest) = b ++ (o ++ (quoted ++ tail)))
    (hlong : b.length < (p ++ found).length) : n = m := by
  rcases specifier_eq_or hopen ho hfound hquoted hlead hsplit hlong with heq | ⟨q, s, r, rfl, hq, -⟩
  · exact heq
  · rw [hp q (by simp)] at hq
    cases hq

theorem bare_of_fits (h : Fits barePhrase t k) :
    ∃ g found, t = Text.ofString "import" ++ (g ++ found) ∧ IsBlank g ∧ g ≠ [] ∧ Quoted found k := by
  obtain ⟨u, rfl, hgap⟩ := exactly_of_fits h
  obtain ⟨g, v, rfl, hg, hleast, hspecifier⟩ := gap_of_fits hgap
  rw [← List.append_nil quotedSpecifier] at hspecifier
  obtain ⟨found, n, w, k', rfl, rfl, hfound, hnil⟩ := quoted_of_fits hspecifier
  cases hnil
  rw [List.append_nil, List.append_nil]
  exact ⟨g, found, rfl, hg, List.ne_nil_of_length_pos hleast, hfound⟩

theorem captured_of_bare {g : Text} (hopen : ¬ EndsOpen (a ++ b)) (hg : IsBlank g)
    (hquoted : Quoted quoted m) {f : Found}
    (h : matchPhrase barePhrase (b ++ ("import" ++ (g ++ (quoted ++ tail)))) = some f)
    (hlong : b.length < f.matched.length) : f.captured = m := by
  obtain ⟨hsplit, hfits⟩ := Text.fits_of_matchPhrase h
  obtain ⟨g', found, hmatched, hg', hne, hfound⟩ := bare_of_fits hfits
  rw [hmatched] at hsplit hlong
  have hsplit' : Text.ofString "import" ++ g' ++ (found ++ f.rest) =
      b ++ (Text.ofString "import" ++ g ++ (quoted ++ tail)) := by
    simpa using hsplit.symm
  exact specifier_eq hopen (isUnquoted_import hg) hfound hquoted (.bare a hg' hne)
    (isUnquoted_import hg') hsplit' (by simpa using hlong)

theorem mem_of_append_eq {c : CodePoint} {d r w : Text} (h : b ++ c :: w = d ++ r)
    (hlong : b.length < d.length) : c ∈ d := by
  rcases List.append_eq_append_iff.mp h with ⟨t, rfl, ht⟩ | ⟨t, rfl, ht⟩
  · cases t with
    | nil => simp at hlong
    | cons e t =>
      obtain ⟨rfl, -⟩ := List.cons.inj ht
      simp
  · rw [List.length_append] at hlong
    omega

theorem lt_length_of_not_mem {c : CodePoint} {d r w : Text} (hc : c ∉ d)
    (h : p ++ (d ++ r) = b ++ c :: w) (hlong : b.length < (p ++ d).length) : b.length < p.length := by
  by_contra hshort
  rw [List.length_append] at hlong
  rcases List.append_eq_append_iff.mp h with ⟨t, rfl, ht⟩ | ⟨t, rfl, ht⟩
  · refine hc (mem_of_append_eq ht.symm ?_)
    rw [List.length_append] at hlong
    omega
  · cases t with
    | nil => exact hc (mem_of_append_eq (b := []) (by simpa using ht) (by simp at hlong; omega))
    | cons e t => simp at hshort

theorem call_of_fits (h : Fits callPhrase t k) :
    ∃ g g' found g'', t = Text.ofString "require" ++ (g ++ (Text.ofString "(" ++ (g' ++ (found ++
      (g'' ++ Text.ofString ")"))))) ∧ IsBlank g ∧ IsBlank g' ∧ IsBlank g'' ∧ Quoted found k := by
  obtain ⟨u, rfl, hcall⟩ := exactly_of_fits h
  obtain ⟨g, v, rfl, hg, -, hbracket⟩ := gap_of_fits hcall
  obtain ⟨w, rfl, hinner⟩ := exactly_of_fits hbracket
  obtain ⟨g', x, rfl, hg', -, hspecifier⟩ := gap_of_fits hinner
  obtain ⟨found, n, y, k', rfl, rfl, hfound, hclose⟩ := quoted_of_fits hspecifier
  obtain ⟨g'', z, rfl, hg'', -, hclosing⟩ := gap_of_fits hclose
  obtain ⟨w, rfl, hnil⟩ := exactly_of_fits hclosing
  cases hnil
  rw [List.append_nil, List.append_nil]
  exact ⟨g, g', found, g'', rfl, hg, hg', hg'', hfound⟩

theorem captured_of_call {g₁ g₂ : Text} (hopen : ¬ EndsOpen (a ++ b)) (hg₁ : IsBlank g₁)
    (hg₂ : IsBlank g₂) (hquoted : Quoted quoted m) {f : Found}
    (h : matchPhrase callPhrase (b ++ ("require" ++ (g₁ ++ ("(" ++ (g₂ ++ (quoted ++ tail)))))) =
      some f)
    (hlong : b.length < f.matched.length) : f.captured = m := by
  obtain ⟨hsplit, hfits⟩ := Text.fits_of_matchPhrase h
  obtain ⟨g, g', found, g'', hmatched, hg, hg', hg'', hfound⟩ := call_of_fits hfits
  rw [hmatched] at hsplit hlong
  have hsplit' : Text.ofString "require" ++ (g ++ (Text.ofString "(" ++ g')) ++ found ++
        (g'' ++ Text.ofString ")" ++ f.rest) =
      b ++ (Text.ofString "require" ++ (g₁ ++ (Text.ofString "(" ++ (g₂ ++ (quoted ++ tail))))) := by
    simpa using hsplit.symm
  have hclosed : .char 'r' ∉ g'' ++ Text.ofString ")" := by
    rw [List.mem_append, not_or]
    exact ⟨fun hmem ↦ absurd (hg'' _ hmem) (by decide), by decide⟩
  have hopening : Text.ofString "require" ++ (g ++ (Text.ofString "(" ++ g')) ++
        (found ++ (g'' ++ Text.ofString ")" ++ f.rest)) =
      b ++ (Text.ofString "require" ++ (g₁ ++ (Text.ofString "(" ++ g₂)) ++ (quoted ++ tail)) := by
    simpa using hsplit'
  exact specifier_eq hopen (isUnquoted_require hg₁ hg₂) hfound hquoted (.call a hg hg')
    (isUnquoted_require hg hg') hopening
    (lt_length_of_not_mem hclosed hsplit' (by simpa using hlong))

/-- What is found with the keyword of an import has no white space that goes on into the names of
the next one. -/
theorem length_opening_le {g w clause more : Text} (hw : IsBlank w)
    (hclause : ∀ c ∈ clause.head?, c.isSpace = false) (hne : clause ≠ [])
    (hsplit : Text.ofString "import" ++ (w ++ rest) =
      b ++ (Text.ofString "import" ++ (g ++ (clause ++ more)))) :
    (Text.ofString "import" ++ w).length ≤ (b ++ (Text.ofString "import" ++ g)).length := by
  cases b with
  | nil =>
    rw [List.nil_append, List.append_cancel_left_eq] at hsplit
    obtain ⟨c, clause, rfl⟩ := List.exists_cons_of_ne_nil hne
    by_contra hlong
    have hc : c ∈ w := by
      refine mem_of_append_eq (b := g) hsplit.symm ?_
      simpa using hlong
    have hspace := hw c hc
    rw [hclause c rfl] at hspace
    cases hspace
  | cons d b =>
    have hword : Text.ofString "import" = .char 'i' :: Text.ofString "mport" := rfl
    rw [hword] at hsplit ⊢
    simp only [List.cons_append, List.cons.injEq] at hsplit
    by_contra hlong
    simp only [List.cons_append, List.length_cons, List.length_append] at hlong
    have hi : CodePoint.char 'i' ∈ Text.ofString "mport" ++ w := by
      refine mem_of_append_eq (b := b) (w := Text.ofString "mport" ++ (g ++ (clause ++ more)))
        (r := rest) ?_ ?_
      · rw [← hsplit.2, List.append_assoc]
      · rw [List.length_append]
        omega
    rcases List.mem_append.mp hi with hi | hi
    · exact absurd hi (by decide)
    · exact absurd (hw _ hi) (by decide)

theorem split_at_mark {q : CodePoint} {l s u x v : Text} (hu : q ∉ u) (hv : q ∉ v)
    (h : l ++ q :: s = u ++ (x ++ v)) : ∃ y z, x = y ++ q :: z ∧ l = u ++ y := by
  obtain ⟨t, rfl, ht⟩ : ∃ t, l = u ++ t ∧ x ++ v = t ++ q :: s := by
    rcases List.append_eq_append_iff.mp h with ⟨t, rfl, ht⟩ | ⟨t, rfl, ht⟩
    · cases t with
      | nil => exact ⟨[], by simp, ht.symm⟩
      | cons e t =>
        obtain ⟨rfl, -⟩ := List.cons.inj ht
        exact absurd (by simp) hu
    · exact ⟨t, rfl, ht⟩
  rcases List.append_eq_append_iff.mp ht with ⟨z, rfl, rfl⟩ | ⟨z, rfl, hz⟩
  · exact absurd (by simp) hv
  · cases z with
    | nil =>
      obtain rfl : q :: s = v := hz
      exact absurd List.mem_cons_self hv
    | cons e z =>
      obtain ⟨rfl, -⟩ := List.cons.inj hz
      exact ⟨t, z, rfl, rfl⟩

theorem exists_of_append_eq {y l r : Text} (h : p ++ y = l ++ r) (hle : p.length ≤ l.length) :
    ∃ x, l = p ++ x ∧ y = x ++ r := by
  rcases List.append_eq_append_iff.mp h with ⟨x, hl, hy⟩ | ⟨x, rfl, hr⟩
  · exact ⟨x, hl, hy⟩
  · obtain rfl : x = [] := by
      rw [List.length_append] at hle
      exact List.length_eq_zero_iff.mp (by omega)
    exact ⟨[], by simp, hr.symm⟩

def fromTail : List Part := gap 1 :: .exactly "from" :: gap 1 :: quotedSpecifier

theorem fits_fromTail {g g' : Text} (hg : IsBlank g) (hne : g ≠ []) (hg' : IsBlank g')
    (hne' : g' ≠ []) (hquoted : Quoted quoted m) :
    Fits fromTail (g ++ (Text.ofString "from" ++ (g' ++ quoted))) m := by
  have hspecifier : Fits quotedSpecifier quoted m := by
    have h := fits_quoted hquoted .nil
    rwa [List.append_nil, List.append_nil, List.append_nil] at h
  exact fits_gap hg (List.length_pos_of_ne_nil hne)
    (fits_exactly (fits_gap hg' (List.length_pos_of_ne_nil hne') hspecifier))

theorem fromTail_of_fits (h : Fits fromTail t k) :
    ∃ g g' found, t = g ++ (Text.ofString "from" ++ (g' ++ found)) ∧ IsBlank g ∧ g ≠ [] ∧
      IsBlank g' ∧ g' ≠ [] ∧ Quoted found k := by
  obtain ⟨g, u, rfl, hg, hleast', hkeyword⟩ := gap_of_fits h
  obtain ⟨v, rfl, hinner⟩ := exactly_of_fits hkeyword
  obtain ⟨g', w, rfl, hg', hleast, hspecifier⟩ := gap_of_fits hinner
  rw [← List.append_nil quotedSpecifier] at hspecifier
  obtain ⟨found, n, x, k', rfl, rfl, hfound, hnil⟩ := quoted_of_fits hspecifier
  cases hnil
  rw [List.append_nil, List.append_nil]
  exact ⟨g, g', found, rfl, hg, List.ne_nil_of_length_pos hleast', hg',
    List.ne_nil_of_length_pos hleast, hfound⟩

/-- How the names of an import are found: behind the longest gap that will do, as few as will do. -/
theorem exists_of_matchPhrase_from {f : Found} (h : matchPhrase fromPhrase t = some f) :
    ∃ w clause v g, t = Text.ofString "import" ++ (w ++ (clause ++ v)) ∧ IsBlank w ∧
      matchPhrase fromTail v = some g ∧ f.captured = g.captured ∧ f.rest = g.rest ∧
      f.matched = Text.ofString "import" ++ (w ++ (clause ++ g.matched)) ∧
      ∀ x y, clause = x ++ y → y ≠ [] → matchPhrase fromTail (y ++ v) = none := by
  obtain ⟨r, f₁, rfl, hf₁, rfl⟩ := Text.matchPhrase_exactly_eq_some h
  obtain ⟨w, u, f₂, rfl, hw, -, hf₂, rfl⟩ := Text.exists_of_longRun hf₁
  obtain ⟨clause, v, g, rfl, -, hg, rfl, hshort⟩ := Text.exists_of_shortRun hf₂
  refine ⟨w, clause, v, g, rfl, hw, hg, ?_, ?_, ?_, hshort⟩ <;> simp [Text.foldr_take, Found.behind]

/-- If the names that are found go on past the mark of an import, fewer names would have done: those
up to its own last name. -/
theorem exists_fewer_names {w g₁ clause g₂ g₃ y z v : Text} {q : CodePoint} (hw : IsBlank w)
    (hhead : ∀ c ∈ clause.head?, c.isSpace = false) (hne : clause ≠ []) (hg₂ : IsBlank g₂)
    (hne₂ : g₂ ≠ []) (hg₃ : IsBlank g₃) (hne₃ : g₃ ≠ []) (hquoted : Quoted quoted m)
    (hsplit : Text.ofString "import" ++ (w ++ (y ++ q :: z ++ v)) =
      b ++ (Text.ofString "import" ++ (g₁ ++ (clause ++ (g₂ ++ (Text.ofString "from" ++
        (g₃ ++ (quoted ++ tail))))))))
    (hy : b ++ (Text.ofString "import" ++ (g₁ ++ (clause ++ (g₂ ++ (Text.ofString "from" ++ g₃))))) =
      Text.ofString "import" ++ w ++ y) :
    ∃ fewer more, y ++ q :: z = fewer ++ more ∧ more ≠ [] ∧
      (matchPhrase fromTail (more ++ v)).isSome = true := by
  have hnames : Text.ofString "import" ++ w ++ y =
      b ++ (Text.ofString "import" ++ (g₁ ++ clause)) ++ (g₂ ++ (Text.ofString "from" ++ g₃)) := by
    simpa using hy.symm
  have hlength := length_opening_le hw hhead hne hsplit
  obtain ⟨x, hx, rfl⟩ := exists_of_append_eq hnames
    (by simp only [List.length_append] at hlength ⊢; omega)
  refine ⟨x, g₂ ++ (Text.ofString "from" ++ g₃) ++ q :: z, by simp, by simp, ?_⟩
  have hcancel : Text.ofString "import" ++ w ++ x ++
      (g₂ ++ (Text.ofString "from" ++ g₃) ++ q :: z ++ v) =
      b ++ (Text.ofString "import" ++ (g₁ ++ clause)) ++
        (g₂ ++ (Text.ofString "from" ++ (g₃ ++ quoted)) ++ tail) := by
    simpa only [List.append_assoc, List.cons_append] using hsplit
  rw [← hx] at hcancel
  rw [List.append_cancel_left hcancel]
  exact Text.isSome_matchPhrase (fits_fromTail hg₂ hne₂ hg₃ hne₃ hquoted) tail

theorem captured_of_from {g₁ clause g₂ g₃ : Text} (hopen : ¬ EndsOpen (a ++ b)) (hg₁ : IsBlank g₁)
    (hclause : IsUnquoted clause) (hhead : ∀ c ∈ clause.head?, c.isSpace = false) (hne : clause ≠ [])
    (hg₂ : IsBlank g₂) (hne₂ : g₂ ≠ []) (hg₃ : IsBlank g₃) (hne₃ : g₃ ≠ [])
    (hquoted : Quoted quoted m) {f : Found}
    (h : matchPhrase fromPhrase (b ++ (Text.ofString "import" ++ (g₁ ++ (clause ++ (g₂ ++
      (Text.ofString "from" ++ (g₃ ++ (quoted ++ tail)))))))) = some f)
    (hlong : b.length < f.matched.length) : f.captured = m := by
  obtain ⟨w, names, v, g, hsplit, hw, hg, hcaptured, -, hmatched, hshort⟩ :=
    exists_of_matchPhrase_from h
  obtain ⟨rfl, hfits⟩ := Text.fits_of_matchPhrase hg
  obtain ⟨w₂, w₃, found, hbehind, hw₂, -, hw₃, hne', hfound⟩ := fromTail_of_fits hfits
  rw [hcaptured]
  rw [hmatched, hbehind] at hlong
  have ho : IsUnquoted (Text.ofString "import" ++ (g₁ ++ (clause ++ (g₂ ++
      (Text.ofString "from" ++ g₃))))) :=
    (isUnquoted_ofString (by simp)).append (hg₁.isUnquoted.append (hclause.append
      (hg₂.isUnquoted.append ((isUnquoted_ofString (by simp)).append hg₃.isUnquoted))))
  have hlead : LeadsIn (a ++ (Text.ofString "import" ++ (w ++ (names ++ (w₂ ++
      (Text.ofString "from" ++ w₃)))))) := by
    have hfrom := LeadsIn.importFrom (a ++ (Text.ofString "import" ++ (w ++ (names ++ w₂)))) hw₃ hne'
    simpa using hfrom
  have hopening : Text.ofString "import" ++ (w ++ (names ++ (w₂ ++ (Text.ofString "from" ++ w₃)))) ++
        (found ++ g.rest) =
      b ++ (Text.ofString "import" ++ (g₁ ++ (clause ++ (g₂ ++ (Text.ofString "from" ++ g₃)))) ++
        (quoted ++ tail)) := by
    rw [hbehind] at hsplit
    simpa using hsplit.symm
  rcases specifier_eq_or hopen ho hfound hquoted hlead hopening (by simpa using hlong) with
    heq | ⟨q, s, r, hp, hq, hr⟩
  · exact heq
  -- The import's own mark would be one of the names found.
  exfalso
  have hnot : ∀ {u : Text}, IsUnquoted u → q ∉ u := by
    intro u hu hmem
    rw [hu q hmem] at hq
    cases hq
  have hmark : b ++ (Text.ofString "import" ++ (g₁ ++ (clause ++ (g₂ ++
      (Text.ofString "from" ++ g₃))))) ++ q :: s = Text.ofString "import" ++ w ++ (names ++
        (w₂ ++ (Text.ofString "from" ++ w₃))) := by
    simpa using hp.symm
  obtain ⟨y, z, rfl, hy⟩ := split_at_mark (hnot (isUnquoted_import hw))
    (hnot (hw₂.isUnquoted.append ((isUnquoted_ofString (by simp)).append hw₃.isUnquoted))) hmark
  obtain ⟨fewer, more, hnames, hmore, hsome⟩ :=
    exists_fewer_names hw hhead hne hg₂ hne₂ hg₃ hne₃ hquoted hsplit.symm hy
  rw [hshort fewer more hnames hmore] at hsome
  cases hsome

theorem exists_mem_imports {w : String} {ps : List Part} {above here : Text}
    (hw : Text.ofString w ≠ []) (hne : here ≠ [])
    (hfits : ∃ u v, here = u ++ v ∧ Fits (.exactly w :: ps) u m)
    (hcaptured : ∀ a b f, above = a ++ b → matchPhrase (.exactly w :: ps) (b ++ here) = some f →
      b.length < f.matched.length → f.captured = m) :
    ∃ f ∈ imports (.exactly w :: ps) (above ++ here), f.captured = m := by
  refine Text.exists_mem_findFrom (fun _ ↦ rfl) hne ?_ (fun t f ↦ Text.matched_pos hw) hcaptured
    (Nat.zero_le _)
  obtain ⟨u, v, rfl, hfits⟩ := hfits
  exact Text.isSome_matchPhrase hfits v

theorem fits_fromPhrase {g₁ clause g₂ g₃ : Text} (hg₁ : IsBlank g₁) (hne₁ : g₁ ≠ [])
    (hline : .char '\n' ∉ clause) (hg₂ : IsBlank g₂) (hne₂ : g₂ ≠ []) (hg₃ : IsBlank g₃)
    (hne₃ : g₃ ≠ []) (hquoted : Quoted quoted m) :
    Fits fromPhrase (Text.ofString "import" ++ (g₁ ++ (clause ++ (g₂ ++ (Text.ofString "from" ++
      (g₃ ++ quoted)))))) m := by
  have hclause : (Part.short (· ≠ CodePoint.char '\n')).Takes clause := by
    intro c hc
    rw [decide_eq_true_eq]
    rintro rfl
    exact hline hc
  exact fits_exactly (fits_gap hg₁ (List.length_pos_of_ne_nil hne₁)
    (.cons hclause (fits_fromTail hg₂ hne₂ hg₃ hne₃ hquoted)))

theorem fits_barePhrase {g : Text} (hg : IsBlank g) (hne : g ≠ []) (hquoted : Quoted quoted m) :
    Fits barePhrase (Text.ofString "import" ++ (g ++ quoted)) m := by
  have hspecifier := fits_quoted hquoted .nil
  rw [List.append_nil, List.append_nil, List.append_nil] at hspecifier
  exact fits_exactly (fits_gap hg (List.length_pos_of_ne_nil hne) hspecifier)

theorem fits_callPhrase {g₁ g₂ g₃ : Text} (hg₁ : IsBlank g₁) (hg₂ : IsBlank g₂) (hg₃ : IsBlank g₃)
    (hquoted : Quoted quoted m) :
    Fits callPhrase (Text.ofString "require" ++ (g₁ ++ (Text.ofString "(" ++ (g₂ ++ (quoted ++
      (g₃ ++ Text.ofString ")")))))) m := by
  have hbracket : Fits [.exactly ")"] (Text.ofString ")") [] := fits_exactly .nil
  have hclose : Fits [gap 0, .exactly ")"] (g₃ ++ Text.ofString ")") [] :=
    fits_gap hg₃ (Nat.zero_le _) hbracket
  have hspecifier := fits_quoted hquoted hclose
  rw [List.append_nil m] at hspecifier
  exact fits_exactly (fits_gap hg₁ (Nat.zero_le _)
    (fits_exactly (fits_gap hg₂ (Nat.zero_le _) hspecifier)))

/-- A plain import is found with its specifier where the text above it does not end open. -/
theorem exists_import_of_plain {above here : Text} (below : Text) (hplain : PlainImport here m)
    (hopen : ¬ EndsOpen above) :
    ∃ phrase ∈ importPhrases, ∃ f ∈ imports phrase (above ++ (here ++ below)), f.captured = m := by
  rw [importPhrases_eq]
  cases hplain with
  | @importFrom g₁ clause g₂ g₃ quoted m tail hg₁ hne₁ hclause hline hhead hne hg₂ hne₂ hg₃ hne₃
      hquoted =>
    refine ⟨fromPhrase, by simp, exists_mem_imports (by decide) (by simp [Text.ofString]) ?_ ?_⟩
    · exact ⟨_, tail ++ below, by simp only [List.append_assoc],
        fits_fromPhrase hg₁ hne₁ hline hg₂ hne₂ hg₃ hne₃ hquoted⟩
    · rintro a b f rfl hf hlong
      simp only [List.append_assoc] at hf
      exact captured_of_from hopen hg₁ hclause hhead hne hg₂ hne₂ hg₃ hne₃ hquoted hf hlong
  | @bare g quoted m tail hg hne hquoted =>
    refine ⟨barePhrase, by simp, exists_mem_imports (by decide) (by simp [Text.ofString]) ?_ ?_⟩
    · exact ⟨_, tail ++ below, by simp only [List.append_assoc], fits_barePhrase hg hne hquoted⟩
    · rintro a b f rfl hf hlong
      simp only [List.append_assoc] at hf
      exact captured_of_bare hopen hg hquoted hf hlong
  | @call g₁ g₂ g₃ quoted m tail hg₁ hg₂ hg₃ hquoted =>
    refine ⟨callPhrase, by simp, exists_mem_imports (by decide) (by simp [Text.ofString]) ?_ ?_⟩
    · exact ⟨_, tail ++ below, by simp only [List.append_assoc],
        fits_callPhrase hg₁ hg₂ hg₃ hquoted⟩
    · rintro a b f rfl hf hlong
      simp only [List.append_assoc] at hf
      exact captured_of_call hopen hg₁ hg₂ hquoted hf hlong

theorem layout_of_mem_imports {phrase : List Part} (hphrase : phrase ∈ importPhrases) {f : Found}
    (h : f ∈ imports phrase t) :
    ∃ above, t = above ++ (f.matched ++ f.rest) ∧ Layout f.matched f.captured := by
  obtain ⟨above, ht, hfits⟩ := Text.exists_of_mem_findFrom h
  refine ⟨above, ht, ?_⟩
  rw [importPhrases_eq, List.mem_cons, List.mem_cons, List.mem_singleton] at hphrase
  rcases hphrase with rfl | rfl | rfl
  · obtain ⟨u, hu, hgap⟩ := exactly_of_fits hfits
    obtain ⟨g₁, v, rfl, hg₁, hleast, hnames⟩ := gap_of_fits hgap
    rw [hu]
    generalize f.captured = m at hnames
    cases hnames with
    | @cons _ _ clause v k hclause htail =>
      obtain ⟨g₂, g₃, found, rfl, hg₂, hne₂, hg₃, hne₃, hfound⟩ := fromTail_of_fits htail
      refine .importFrom hg₁ (List.ne_nil_of_length_pos hleast) ?_ hg₂ hne₂ hg₃ hne₃ hfound
      intro hmem
      exact absurd (hclause _ hmem) (by decide)
  · obtain ⟨g, found, hmatched, hg, hne, hfound⟩ := bare_of_fits hfits
    rw [hmatched]
    exact .bare hg hne hfound
  · obtain ⟨g₁, g₂, found, g₃, hmatched, hg₁, hg₂, hg₃, hfound⟩ := call_of_fits hfits
    rw [hmatched]
    exact .call hg₁ hg₂ hg₃ hfound

end Layouts

end PackageAudit.Scan
