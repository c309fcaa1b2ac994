import Mathlib.Data.List.Basic
import PackageAudit.Text.Phrase

namespace PackageAudit.Text

section Stops

variable {P : CodePoint → Prop} {u v s r : Text} {c d : CodePoint}

theorem forall_or_first (P : CodePoint → Prop) (t : Text) : (∀ c ∈ t, P c) ∨
    ∃ u c v, t = u ++ c :: v ∧ (∀ d ∈ u, P d) ∧ ¬ P c := by
  induction t with
  | nil => exact .inl fun c hc ↦ nomatch hc
  | cons c t ih =>
    by_cases hc : P c
    · rcases ih with ht | ⟨u, d, v, rfl, hu, hd⟩
      · exact .inl (List.forall_mem_cons.mpr ⟨hc, ht⟩)
      · exact .inr ⟨c :: u, d, v, rfl, List.forall_mem_cons.mpr ⟨hc, hu⟩, hd⟩
    · exact .inr ⟨[], c, t, rfl, fun d hd ↦ (nomatch hd), hc⟩

theorem first_unique (hu : ∀ e ∈ u, P e) (hv : ∀ e ∈ v, P e) (hc : ¬ P c) (hd : ¬ P d)
    (h : u ++ c :: s = v ++ d :: r) : u = v ∧ c = d ∧ s = r := by
  induction u generalizing v with
  | nil =>
    cases v with
    | nil => exact ⟨rfl, List.cons.inj h⟩
    | cons e v =>
      obtain ⟨rfl, -⟩ := List.cons.inj h
      exact absurd (hv c List.mem_cons_self) hc
  | cons e u ih =>
    cases v with
    | nil =>
      obtain ⟨rfl, -⟩ := List.cons.inj h
      exact absurd (hu e List.mem_cons_self) hd
    | cons f v =>
      rw [List.cons_append, List.cons_append, List.cons.injEq] at h
      obtain ⟨rfl, h⟩ := h
      obtain ⟨rfl, hrest⟩ := ih (fun e he ↦ hu e (List.mem_cons_of_mem _ he))
        (fun e he ↦ hv e (List.mem_cons_of_mem _ he)) h
      exact ⟨rfl, hrest⟩

theorem takeWhile_of_first {p : CodePoint → Bool} (hu : ∀ d ∈ u, p d = true) (hc : p c = false)
    (s : Text) : (u ++ c :: s).takeWhile p = u := by
  rw [List.takeWhile_append_of_pos hu, List.takeWhile_cons_of_neg (by rw [hc]; decide),
    List.append_nil]

end Stops

section Runs

variable {α : Type} {p : CodePoint → Bool} {extend : CodePoint → α → α} {next : Text → Option α}
variable {least : ℕ} {t u v : Text} {a : α}

theorem exists_of_longRun (h : longRun p extend next least t = some a) :
    ∃ u v b, t = u ++ v ∧ (∀ c ∈ u, p c = true) ∧ least ≤ u.length ∧ next v = some b ∧
      a = u.foldr extend b := by
  induction t generalizing least a with
  | nil =>
    rw [longRun] at h
    split at h
    · exact ⟨[], [], a, rfl, by simp, by omega, h, rfl⟩
    · cases h
  | cons c t ih =>
    have hstop : (if least = 0 then next (c :: t) else none) = some a →
        ∃ u v b, c :: t = u ++ v ∧ (∀ c ∈ u, p c = true) ∧ least ≤ u.length ∧ next v = some b ∧
          a = u.foldr extend b := by
      intro h
      split at h
      · exact ⟨[], c :: t, a, rfl, by simp, by omega, h, rfl⟩
      · cases h
    rw [longRun] at h
    dsimp only at h
    split at h
    · rename_i hc
      split at h
      · rename_i b hrun
        obtain ⟨u, v, b', rfl, hu, hleast, hnext, rfl⟩ := ih hrun
        refine ⟨c :: u, v, b', rfl, List.forall_mem_cons.mpr ⟨hc, hu⟩, ?_, hnext,
          (Option.some.inj h).symm⟩
        rw [List.length_cons]
        omega
      · exact hstop h
    · exact hstop h

theorem isSome_longRun (hu : ∀ c ∈ u, p c = true) (hleast : least ≤ u.length)
    (h : (next v).isSome) : (longRun p extend next least (u ++ v)).isSome := by
  induction u generalizing least with
  | nil =>
    obtain rfl : least = 0 := Nat.le_zero.mp hleast
    rw [List.nil_append]
    cases v with
    | nil => simpa [longRun] using h
    | cons c v =>
      rw [longRun]
      dsimp only
      split
      · split
        · rfl
        · exact h
      · exact h
  | cons c u ih =>
    obtain ⟨hc, hu⟩ := List.forall_mem_cons.mp hu
    rw [List.length_cons] at hleast
    have hrest : least - 1 ≤ u.length := by omega
    obtain ⟨b, hb⟩ := Option.isSome_iff_exists.mp (ih hu hrest)
    rw [List.cons_append, longRun, if_pos hc, hb]
    rfl

/-- A longest run is found where some run of the least length or more leaves what `next` accepts. -/
theorem isSome_longRun_iff : (longRun p extend next least t).isSome ↔
    ∃ u v, t = u ++ v ∧ (∀ c ∈ u, p c = true) ∧ least ≤ u.length ∧ (next v).isSome := by
  constructor
  · intro h
    obtain ⟨a, ha⟩ := Option.isSome_iff_exists.mp h
    obtain ⟨u, v, b, ht, hu, hleast, hnext, -⟩ := exists_of_longRun ha
    exact ⟨u, v, ht, hu, hleast, Option.isSome_iff_exists.mpr ⟨b, hnext⟩⟩
  · rintro ⟨u, v, rfl, hu, hleast, h⟩
    exact isSome_longRun hu hleast h

theorem exists_of_shortRun (h : shortRun p extend next t = some a) :
    ∃ u v b, t = u ++ v ∧ (∀ c ∈ u, p c = true) ∧ next v = some b ∧ a = u.foldr extend b ∧
      ∀ u' w, u = u' ++ w → w ≠ [] → next (w ++ v) = none := by
  induction t generalizing a with
  | nil => exact ⟨[], [], a, rfl, by simp, h, rfl, by simp⟩
  | cons c t ih =>
    rw [shortRun] at h
    split at h
    · rename_i b hnext
      exact ⟨[], c :: t, b, rfl, by simp, hnext, (Option.some.inj h).symm, by simp⟩
    · rename_i hnone
      split at h
      · rename_i hc
        obtain ⟨a', hrun, rfl⟩ := Option.map_eq_some_iff.mp h
        obtain ⟨u, v, b, rfl, hu, hnext, rfl, hshort⟩ := ih hrun
        refine ⟨c :: u, v, b, rfl, List.forall_mem_cons.mpr ⟨hc, hu⟩, hnext, rfl, ?_⟩
        intro u' w hsplit hw
        cases u' with
        | nil =>
          obtain rfl : c :: u = w := hsplit
          exact hnone
        | cons d u' => exact hshort u' w (List.cons.inj hsplit).2 hw
      · cases h

theorem isSome_shortRun (hu : ∀ c ∈ u, p c = true) (h : (next v).isSome) :
    (shortRun p extend next (u ++ v)).isSome := by
  induction u with
  | nil =>
    obtain ⟨a, ha⟩ := Option.isSome_iff_exists.mp h
    rw [List.nil_append]
    cases v with
    | nil => exact h
    | cons c v =>
      rw [shortRun, ha]
      rfl
  | cons c u ih =>
    obtain ⟨hc, hu⟩ := List.forall_mem_cons.mp hu
    rw [List.cons_append, shortRun]
    split
    · rfl
    · rw [if_pos hc, Option.isSome_map]
      exact ih hu

end Runs

section Phrases

def Part.Takes : Part → Text → Prop
  | .exactly s, t => t = s
  | .one p, t => ∃ c, t = [c] ∧ p c = true
  | .long p least _, t => (∀ c ∈ t, p c = true) ∧ least ≤ t.length
  | .short p, t => ∀ c ∈ t, p c = true

def Part.keep : Part → Text → Text
  | .long _ _ true, t => t
  | _, _ => []

/-- The parts of a phrase take a text to its end, and keep some of it. -/
inductive Fits : List Part → Text → Text → Prop
  | nil : Fits [] [] []
  | cons {part : Part} {ps : List Part} {u v k : Text} : part.Takes u → Fits ps v k →
      Fits (part :: ps) (u ++ v) (part.keep u ++ k)

variable {ps : List Part} {t u k v : Text} {f : Found}

theorem foldr_take (captured : Bool) (u : Text) (f : Found) : u.foldr (Found.take captured) f =
    ⟨u ++ f.matched, if captured then u ++ f.captured else f.captured, f.rest⟩ := by
  induction u with
  | nil => cases captured <;> rfl
  | cons c u ih =>
    rw [List.foldr_cons, ih]
    cases captured <;> rfl

theorem matchPhrase_exactly_eq_some {s : Text} (h : matchPhrase (.exactly s :: ps) t = some f) :
    ∃ r g, t = s ++ r ∧ matchPhrase ps r = some g ∧ f = g.behind s := by
  rw [matchPhrase] at h
  split at h
  · rename_i hprefix
    obtain ⟨g, hg, rfl⟩ := Option.map_eq_some_iff.mp h
    obtain ⟨r, rfl⟩ := List.isPrefixOf_iff_prefix.mp hprefix
    rw [List.drop_left' rfl] at hg
    exact ⟨r, g, rfl, hg, rfl⟩
  · cases h

theorem fits_of_matchPhrase (h : matchPhrase ps t = some f) :
    t = f.matched ++ f.rest ∧ Fits ps f.matched f.captured := by
  induction ps generalizing t f with
  | nil =>
    obtain rfl := Option.some.inj h
    exact ⟨rfl, .nil⟩
  | cons part ps ih =>
    cases part with
    | exactly s =>
      obtain ⟨r, g, rfl, hg, rfl⟩ := matchPhrase_exactly_eq_some h
      obtain ⟨rfl, hfits⟩ := ih hg
      have htakes : (Part.exactly s).Takes s := rfl
      exact ⟨(List.append_assoc _ _ _).symm, .cons htakes hfits⟩
    | one p =>
      cases t with
      | nil => cases h
      | cons c r =>
        simp only [matchPhrase] at h
        split at h
        · rename_i hc
          obtain ⟨g, hg, rfl⟩ := Option.map_eq_some_iff.mp h
          obtain ⟨rfl, hfits⟩ := ih hg
          have htakes : (Part.one p).Takes [c] := ⟨c, rfl, hc⟩
          exact ⟨rfl, .cons htakes hfits⟩
        · cases h
    | long p least captured =>
      obtain ⟨u, v, g, rfl, hu, hleast, hg, rfl⟩ := exists_of_longRun h
      obtain ⟨rfl, hfits⟩ := ih hg
      rw [foldr_take]
      refine ⟨by rw [List.append_assoc], ?_⟩
      have htakes : (Part.long p least captured).Takes u := ⟨hu, hleast⟩
      have hcons := Fits.cons htakes hfits
      cases captured <;> exact hcons
    | short p =>
      obtain ⟨u, v, g, rfl, hu, hg, rfl, -⟩ := exists_of_shortRun h
      obtain ⟨rfl, hfits⟩ := ih hg
      rw [foldr_take]
      have htakes : (Part.short p).Takes u := hu
      exact ⟨by rw [List.append_assoc], .cons htakes hfits⟩

theorem isSome_matchPhrase (h : Fits ps u k) (v : Text) : (matchPhrase ps (u ++ v)).isSome := by
  induction h with
  | nil => rfl
  | @cons part ps u w k hpart _ ih =>
    rw [List.append_assoc]
    cases part with
    | exactly s =>
      obtain rfl : u = s := hpart
      have hprefix : u.isPrefixOf (u ++ (w ++ v)) = true :=
        List.isPrefixOf_iff_prefix.mpr (List.prefix_append _ _)
      simp only [matchPhrase, hprefix, if_true, List.drop_left' rfl, Option.isSome_map]
      exact ih
    | one p =>
      obtain ⟨c, rfl, hc⟩ := hpart
      simp only [List.singleton_append, matchPhrase, hc, if_true, Option.isSome_map]
      exact ih
    | long p least captured => exact isSome_longRun hpart.1 hpart.2 ih
    | short p => exact isSome_shortRun hpart ih

end Phrases

section Search

variable {phrase : List Part} {start : Option CodePoint → Bool} {before : Option CodePoint}
variable {inside : ℕ} {t here : Text} {f : Found}

/-- What a search finds stands in the text. -/
theorem exists_of_mem_findFrom (h : f ∈ findFrom phrase start before inside t) :
    ∃ above, t = above ++ (f.matched ++ f.rest) ∧ Fits phrase f.matched f.captured := by
  induction t generalizing before inside with
  | nil => cases inside <;> cases h
  | cons c t ih =>
    have hbelow : ∀ inside, f ∈ findFrom phrase start (some c) inside t →
        ∃ above, c :: t = above ++ (f.matched ++ f.rest) ∧ Fits phrase f.matched f.captured := by
      intro inside h
      obtain ⟨above, rfl, hfits⟩ := ih h
      exact ⟨c :: above, rfl, hfits⟩
    cases inside with
    | succ inside => exact hbelow inside h
    | zero =>
      rw [findFrom] at h
      split at h
      · rename_i g hg
        rcases List.mem_cons.mp h with rfl | h
        · split at hg
          · obtain ⟨hsplit, hfits⟩ := fits_of_matchPhrase hg
            exact ⟨[], hsplit, hfits⟩
          · cases hg
        · exact hbelow _ h
      · exact hbelow 0 h

theorem matched_pos {s : Text} {ps : List Part} (hs : s ≠ [])
    (h : matchPhrase (.exactly s :: ps) t = some f) : 0 < f.matched.length := by
  obtain ⟨r, g, -, -, rfl⟩ := matchPhrase_exactly_eq_some h
  exact List.length_pos_of_ne_nil (List.append_ne_nil_of_left_ne_nil hs g.matched)

/-- A search finds what stands at a place if all that reaches there, from the place itself or from
above it, is good. -/
theorem exists_mem_findFrom {good : Found → Prop} (hstart : ∀ before, start before = true)
    (hne : here ≠ []) (hsome : (matchPhrase phrase here).isSome)
    (hpos : ∀ t f, matchPhrase phrase t = some f → 0 < f.matched.length) {above : Text}
    (hgood : ∀ a b f, above = a ++ b → matchPhrase phrase (b ++ here) = some f →
      b.length < f.matched.length → good f)
    (hinside : inside ≤ above.length) :
    ∃ f ∈ findFrom phrase start before inside (above ++ here), good f := by
  induction above generalizing before inside with
  | nil =>
    obtain rfl : inside = 0 := Nat.le_zero.mp hinside
    obtain ⟨f, hf⟩ := Option.isSome_iff_exists.mp hsome
    have hf' := hgood [] [] f rfl hf (hpos here f hf)
    obtain ⟨c, r, rfl⟩ := List.exists_cons_of_ne_nil hne
    rw [List.nil_append, findFrom, hstart, if_pos rfl, hf]
    exact ⟨f, List.mem_cons_self, hf'⟩
  | cons c above ih =>
    have hrest : ∀ {before inside}, inside ≤ above.length →
        ∃ f ∈ findFrom phrase start before inside (above ++ here), good f :=
      ih fun a b f hsplit ↦ hgood (c :: a) b f (congrArg (c :: ·) hsplit)
    cases inside with
    | succ inside => exact hrest (Nat.le_of_succ_le_succ hinside)
    | zero =>
      rw [List.cons_append, findFrom, hstart, if_pos rfl]
      cases hmatch : matchPhrase phrase (c :: (above ++ here)) with
      | none => exact hrest (Nat.zero_le _)
      | some f =>
        by_cases hlong : (c :: above).length < f.matched.length
        · exact ⟨f, List.mem_cons_self, hgood [] (c :: above) f rfl hmatch hlong⟩
        · rw [List.length_cons, Nat.not_lt] at hlong
          have hinside : f.matched.length - 1 ≤ above.length := by omega
          obtain ⟨g, hg, hgood⟩ := hrest hinside
          exact ⟨g, List.mem_cons_of_mem f hg, hgood⟩

end Search

end PackageAudit.Text
