import PackageAudit.Proofs.Json.Grammar
import PackageAudit.Proofs.Json.Readers

namespace PackageAudit.Json

variable {s t rest r : Text} {c : CodePoint} {n start place : ℕ}

section Escapes

theorem Spells.ne_nil (h : Spells s t rest) : s ≠ [] := by
  cases h <;> exact List.cons_ne_nil _ _

theorem spells_self (ht : ∀ c ∈ t, c ≠ .char '\x22' ∧ c ≠ .char '\\' ∧ 32 ≤ c.toNat) (rest : Text) :
    Spells (t ++ .char '\x22' :: rest) t rest := by
  induction t with
  | nil => exact .close
  | cons c t ih =>
    obtain ⟨hquote, hbackslash, hc⟩ := ht c List.mem_cons_self
    exact .self hquote hbackslash hc (ih fun d hd ↦ ht d (List.mem_cons_of_mem c hd))

theorem four_le_length_of_fourHex? (h : fourHex? r = some n) : 4 ≤ r.length := by
  unfold fourHex? at h
  split at h
  · simp
  · cases h

theorem unicodeEscape?_eq_some_iff :
    unicodeEscape? r = some n ↔ fourHex? r = some n ∧ r.drop 4 ≠ [] := by
  rw [unicodeEscape?]
  cases hr : r.drop 4 <;> simp

def IsCutOff (behind : Text) : Prop :=
  ∃ r, behind = .char '\\' :: .char 'u' :: r ∧ r.drop 4 = []

theorem Spells.not_isCutOff (h : Spells s t rest) : ¬ IsCutOff s := by
  rintro ⟨r, rfl, hr⟩
  cases h with
  | self hquote hbackslash => exact hbackslash rfl
  | simple hc => cases hc
  | unit hn hsingle h => exact h.ne_nil hr
  | pair hn hc h =>
    obtain ⟨-, r', low, hr', -⟩ := hc
    rw [hr] at hr'
    cases hr'

theorem Spells.fourHex?_ne_none (h : Spells (.char '\\' :: .char 'u' :: r) t rest) :
    fourHex? r ≠ none := by
  cases h with
  | self hquote hbackslash => exact absurd rfl hbackslash
  | simple hc => cases hc
  | unit hn => simp [hn]
  | pair hn => simp [hn]

theorem escape_unit_of_not_joins (hn : fourHex? r = some n)
    (hsingle : ∀ c r', ¬ Joins n (r.drop 4) c r') (h : Spells (r.drop 4) t rest) :
    escape (.char 'u' :: r) = .ok (CodePoint.ofNat n, 5) := by
  have hescape := unicodeEscape?_eq_some_iff.mpr ⟨hn, h.ne_nil⟩
  rw [escape, hescape]
  dsimp only
  split
  · rename_i r' hhigh hr
    rw [Bool.and_eq_true, decide_eq_true_eq, decide_eq_true_eq] at hhigh
    rw [hr] at h hsingle
    split
    · rfl
    · cases hlow : fourHex? r' with
      | none => exact absurd hlow h.fourHex?_ne_none
      | some low =>
        cases hjoin : joinPair? n low with
        | none => simp only [hjoin]
        | some c => exact absurd ⟨hhigh, r', low, rfl, hlow, hjoin, rfl⟩ (hsingle c _)
  · rfl

theorem escape_pair (hn : fourHex? r = some n) {r' : Text} (hc : Joins n (r.drop 4) c r')
    (hr' : r' ≠ []) : escape (.char 'u' :: r) = .ok (c, 11) := by
  obtain ⟨hhigh, behind, low, hr, hlow, hjoin, rfl⟩ := hc
  have hescape := unicodeEscape?_eq_some_iff.mpr ⟨hn, hr ▸ List.cons_ne_nil _ _⟩
  have hdecide : (decide (0xD800 ≤ n) && decide (n < 0xDC00)) = true := by simp [hhigh]
  rw [escape, hescape]
  dsimp only
  rw [hdecide, hr]
  simp only [List.isEmpty_iff, if_neg hr', hlow, hjoin]

/-- What an escape stands for: a code point by its letter, by its number, or by the numbers of its
two surrogates. -/
theorem escape_cases {k : ℕ} (h : escape r = .ok (c, k)) :
    (∃ e r', r = e :: r' ∧ simpleEscape? e = some c ∧ k = 1) ∨
    ∃ r' n, r = .char 'u' :: r' ∧ fourHex? r' = some n ∧
      (c = CodePoint.ofNat n ∧ k = 5 ∧
          (IsCutOff (r'.drop 4) ∨ ∀ c r'', ¬ Joins n (r'.drop 4) c r'') ∨
        Joins n (r'.drop 4) c (r'.drop 10) ∧ k = 11) := by
  unfold escape at h
  split at h
  · cases h
  · rename_i r'
    split at h
    · cases h
    rename_i n hn
    obtain ⟨hn, hne⟩ := unicodeEscape?_eq_some_iff.mp hn
    refine .inr ⟨r', n, rfl, hn, ?_⟩
    split at h
    · rename_i r'' hhigh hr
      have hhigh : 0xD800 ≤ n ∧ n < 0xDC00 := by simpa using hhigh
      split at h
      · rename_i hempty
        cases h
        exact .inl ⟨rfl, rfl, .inl ⟨r'', hr, List.isEmpty_iff.mp hempty⟩⟩
      split at h
      · cases h
      · rename_i low hlow
        split at h
        · rename_i c' hjoin
          cases h
          refine .inr ⟨⟨hhigh, r'', low, hr, hlow, hjoin, ?_⟩, rfl⟩
          have hdrop := congrArg (List.drop 6) hr
          rwa [List.drop_drop] at hdrop
        · rename_i hjoin
          cases h
          refine .inl ⟨rfl, rfl, .inr ?_⟩
          rintro c r₁ ⟨-, r₂, low', hr₂, hlow', hjoin', -⟩
          obtain ⟨-, hr₂⟩ := List.cons.inj (hr.symm.trans hr₂)
          obtain ⟨-, rfl⟩ := List.cons.inj hr₂
          obtain rfl := Option.some.inj (hlow.symm.trans hlow')
          rw [hjoin] at hjoin'
          cases hjoin'
    · rename_i hsingle
      cases h
      refine .inl ⟨rfl, rfl, .inr ?_⟩
      rintro c r'' ⟨hhigh, behind, low, hr, -⟩
      exact hsingle behind (by simpa using hhigh) hr
  · rename_i e r' he
    split at h
    · cases h
    · rename_i c' hc
      cases h
      exact .inl ⟨e, r', rfl, hc, rfl⟩

end Escapes

section Strings

theorem stringFrom_escape {k : ℕ} (hc : escape r = .ok (c, k)) (hk : k ≤ r.length) (start place : ℕ) :
    stringFrom start (.char '\\' :: r) place 0 = do
      let (t, cursor) ← stringFrom start (r.drop k) (place + (k + 1)) 0
      return (c :: t, cursor) := by
  have hlength : (r.take k).length = k := List.length_take_of_le hk
  have hescape : escape (r.take k ++ r.drop k) = .ok (c, (r.take k).length) := by
    rw [List.take_append_drop, hlength, hc]
  have hstands := StandsFor.of_escape hescape start place
  rwa [List.cons_append, List.take_append_drop, List.length_cons, hlength] at hstands

/-- What breaks off in a string is never a matter of limits. -/
theorem malformed_of_stringFrom {inside : ℕ} {e : ReadError}
    (h : stringFrom start s place inside = .error e) : ∃ fault place', e = .malformed fault place' := by
  induction s generalizing place inside e with
  | nil =>
    cases h
    exact ⟨_, _, rfl⟩
  | cons c s ih =>
    have hbind {place inside : ℕ} {d : CodePoint} (h : (do
        let (t, cursor) ← stringFrom start s place inside
        return (d :: t, cursor)) = Except.error e) : ∃ fault place', e = .malformed fault place' := by
      cases htail : stringFrom start s place inside with
      | ok a =>
        rw [htail] at h
        cases h
      | error e' =>
        rw [htail] at h
        cases h
        exact ih htail
    unfold stringFrom at h
    split at h
    · cases h
      exact ⟨_, _, rfl⟩
    · rename_i heq
      cases heq
      exact ih h
    · cases h
    · rename_i heq
      cases heq
      split at h
      · cases h
        exact ⟨_, _, rfl⟩
      · cases h
        exact ⟨_, _, rfl⟩
      · exact hbind h
    · rename_i heq
      cases heq
      split at h
      · cases h
        exact ⟨_, _, rfl⟩
      · exact hbind h

theorem Spells.stringFrom_eq (h : Spells s t rest) (start place : ℕ) :
    ∃ place', stringFrom start s place 0 = .ok (t, ⟨rest, place'⟩) := by
  induction h generalizing place with
  | close => exact ⟨place + 1, rfl⟩
  | @self c r t rest hquote hbackslash hc h ih =>
    obtain ⟨place', htail⟩ := ih (place + 1)
    have hstands := StandsFor.self hquote hbackslash hc r start place
    rw [List.singleton_append, List.length_singleton, htail] at hstands
    exact ⟨place', hstands⟩
  | @simple e c r t rest hc h ih =>
    obtain ⟨place', htail⟩ := ih (place + 2)
    have he : e ≠ .char 'u' := by
      rintro rfl
      cases hc
    have hstands := StandsFor.simple he hc r start place
    rw [List.cons_append, List.singleton_append] at hstands
    exact ⟨place', hstands.trans (by simp [htail])⟩
  | @unit n r t rest hn hsingle h ih =>
    obtain ⟨place', htail⟩ := ih (place + 6)
    have hlength := four_le_length_of_fourHex? hn
    refine ⟨place', ?_⟩
    rw [stringFrom_escape (escape_unit_of_not_joins hn hsingle h) (by simpa using hlength),
      List.drop_succ_cons, htail]
    rfl
  | @pair n c r r' t rest hn hc h ih =>
    obtain ⟨place', htail⟩ := ih (place + 12)
    obtain ⟨-, behind, low, hr, hlow, -, rfl⟩ := id hc
    have hlength := congrArg List.length hr
    have hlength' := four_le_length_of_fourHex? hlow
    have hdrop := congrArg (List.drop 6) hr
    rw [List.drop_drop] at hdrop
    refine ⟨place', ?_⟩
    rw [stringFrom_escape (escape_pair hn hc h.ne_nil) (by simp at hlength ⊢; omega),
      List.drop_succ_cons, hdrop]
    simp only [List.drop_succ_cons] at htail ⊢
    rw [htail]
    rfl

theorem spells_of_stringFrom {cursor : Cursor} (h : stringFrom start s place 0 = .ok (t, cursor)) :
    Spells s t cursor.rest := by
  -- A step reads several code points, so that the induction is on the length.
  induction hlength : s.length using Nat.strongRecOn generalizing s t place with
  | ind m ih =>
    subst hlength
    have htail {c : CodePoint} {r : Text} {place : ℕ} (hr : r.length < s.length)
        (h : (do
          let (t, cursor) ← stringFrom start r place 0
          return (c :: t, cursor)) = Except.ok (t, cursor)) :
        ∃ t', t = c :: t' ∧ Spells r t' cursor.rest := by
      cases hrest : stringFrom start r place 0 with
      | error e =>
        rw [hrest] at h
        cases h
      | ok a =>
        rw [hrest] at h
        cases h
        exact ⟨_, rfl, ih r.length hr hrest rfl⟩
    cases s with
    | nil => cases h
    | cons c r =>
      by_cases hquote : c = .char '\x22'
      · subst hquote
        cases h
        exact .close
      by_cases hbackslash : c = .char '\\'
      · subst hbackslash
        cases hescape : escape r with
        | error fault =>
          obtain ⟨fault, distance⟩ := fault
          rw [stringFrom, hescape] at h
          cases fault <;> cases h
        | ok a =>
          obtain ⟨c, k⟩ := a
          rcases escape_cases hescape with ⟨e, r', rfl, hc, rfl⟩ | ⟨r', n, rfl, hn, hunit | hpair⟩
          · rw [stringFrom_escape hescape (Nat.le_add_left 1 _)] at h
            obtain ⟨t', rfl, ht'⟩ := htail (by simp only [List.length_cons, List.length_drop]; omega) h
            exact .simple hc ht'
          · obtain ⟨rfl, rfl, hsingle⟩ := hunit
            have hfour := four_le_length_of_fourHex? hn
            rw [stringFrom_escape hescape (by simpa using hfour)] at h
            obtain ⟨t', rfl, ht'⟩ := htail (by simp; omega) h
            exact .unit hn (hsingle.resolve_left ht'.not_isCutOff) ht'
          · obtain ⟨hjoins, rfl⟩ := hpair
            have hten : 10 ≤ r'.length := by
              obtain ⟨-, behind, low, hr, hlow, -⟩ := hjoins
              have hlength := congrArg List.length hr
              have hfour := four_le_length_of_fourHex? hlow
              simp at hlength
              omega
            rw [stringFrom_escape hescape (by simp; omega)] at h
            obtain ⟨t', rfl, ht'⟩ := htail (by simp; omega) h
            exact .pair hn hjoins ht'
      · rw [stringFrom.eq_5 start place c r hquote hbackslash] at h
        split at h
        · cases h
        · rename_i hc
          obtain ⟨t', rfl, ht'⟩ := htail (by simp) h
          exact .self hquote hbackslash (by omega) ht'

end Strings

end PackageAudit.Json
