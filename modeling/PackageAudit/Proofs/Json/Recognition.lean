import PackageAudit.Proofs.Json.Numerals
import PackageAudit.Proofs.Json.Spelling

namespace PackageAudit.Json

def ReadError.IsLimit : ReadError → Prop
  | .malformed _ _ => False
  | .longInteger | .deep => True

section Runs

variable {α β : Type} {r : Reader α} {f : α → Reader β} {s rest : Text} {a : α} {b : β}
  {P : α → Text → Prop} {Q : β → Text → Prop} {E : Prop}

/-- What a reader answers on a text, and what it leaves of it, are as told; and where it stops at a
limit, so is that. -/
def Obeys (r : Reader α) (s : Text) (P : α → Text → Prop) (E : Prop) : Prop :=
  ∀ place, (∀ a c, r.run ⟨s, place⟩ = .ok (a, c) → P a c.rest) ∧
    ∀ e, r.run ⟨s, place⟩ = .error e → e.IsLimit → E

theorem Obeys.mono {P' : α → Text → Prop} {E' : Prop} (h : Obeys r s P E)
    (hP : ∀ a rest, P a rest → P' a rest) (hE : E → E') : Obeys r s P' E' :=
  fun place ↦ ⟨fun a c hrun ↦ hP a c.rest ((h place).1 a c hrun),
    fun e hrun he ↦ hE ((h place).2 e hrun he)⟩

theorem Obeys.bind (hr : Obeys r s P E) (hf : ∀ a rest, P a rest → Obeys (f a) rest Q E) :
    Obeys (r >>= f) s Q E := by
  intro place
  rw [StateT.run_bind]
  cases hrun : r.run ⟨s, place⟩ with
  | error e =>
    refine ⟨fun b c h ↦ (nomatch h), fun e' h he ↦ (hr place).2 e' ?_ he⟩
    cases h
    exact hrun
  | ok a => exact hf a.1 a.2.rest ((hr place).1 a.1 a.2 hrun) a.2.place

theorem obeys_pure (h : P a s) : Obeys (pure a) s P E := by
  refine fun place ↦ ⟨fun b c hrun ↦ ?_, fun e hrun ↦ (nomatch hrun)⟩
  cases hrun
  exact h

theorem obeys_fail (fault : Fault) (place : ℕ) : Obeys (fail fault place) s P E := by
  refine fun place ↦ ⟨fun b c hrun ↦ (nomatch hrun), fun e hrun he ↦ ?_⟩
  cases hrun
  exact he.elim

theorem obeys_throw (e : ReadError) (h : E) : Obeys (throw e) s P E :=
  fun _ ↦ ⟨fun _ _ hrun ↦ (nomatch hrun), fun _ _ _ ↦ h⟩

theorem obeys_get {f : Cursor → Reader β} (h : ∀ place, Obeys (f ⟨s, place⟩) s Q E) :
    Obeys (get >>= f) s Q E := fun place ↦ h place place

theorem obeys_advance {f : Unit → Reader β} {n : ℕ} (h : Obeys (f ()) (s.drop n) Q E) :
    Obeys (advance n >>= f) s Q E := fun place ↦ h (place + n)

theorem drop_takeWhile_isGap (s : Text) : s.drop (s.takeWhile isGap).length = behindGap s := by
  have hsplit : s.takeWhile isGap ++ behindGap s = s := List.takeWhile_append_dropWhile
  calc s.drop (s.takeWhile isGap).length
      = (s.takeWhile isGap ++ behindGap s).drop (s.takeWhile isGap).length := by rw [hsplit]
    _ = behindGap s := List.drop_left' rfl

theorem obeys_skipGap {f : Unit → Reader β} (h : Obeys (f ()) (behindGap s) Q E) :
    Obeys (skipGap >>= f) s Q E := by
  intro place
  rw [← drop_takeWhile_isGap] at h
  exact h (place + (s.takeWhile isGap).length)

def Ends (r : Reader α) (s : Text) : Option (α × Text) → Prop
  | some (a, rest) => ∀ place, ∃ place', r.run ⟨s, place⟩ = .ok (a, ⟨rest, place'⟩)
  | none => ∀ place, ∃ e, e.IsLimit ∧ r.run ⟨s, place⟩ = .error e

theorem Ends.bind {o : Option (β × Text)} (hr : Ends r s (some (a, rest))) (hf : Ends (f a) rest o) :
    Ends (r >>= f) s o := by
  cases o with
  | some b =>
    intro place
    obtain ⟨place', hrun⟩ := hr place
    rw [StateT.run_bind, hrun]
    exact hf place'
  | none =>
    intro place
    obtain ⟨place', hrun⟩ := hr place
    rw [StateT.run_bind, hrun]
    exact hf place'

theorem Ends.bind_limit (hr : Ends r s none) : Ends (r >>= f) s none := by
  intro place
  obtain ⟨e, he, hrun⟩ := hr place
  rw [StateT.run_bind, hrun]
  exact ⟨e, he, rfl⟩

theorem ends_pure (a : α) (s : Text) : Ends (pure a) s (some (a, s)) := fun place ↦ ⟨place, rfl⟩

theorem ends_throw {e : ReadError} (he : e.IsLimit) : Ends (throw e : Reader α) s none :=
  fun _ ↦ ⟨e, he, rfl⟩

theorem ends_get {f : Cursor → Reader β} {o : Option (β × Text)}
    (h : ∀ place, Ends (f ⟨s, place⟩) s o) : Ends (get >>= f) s o := by
  cases o <;> exact fun place ↦ h place place

theorem ends_advance {f : Unit → Reader β} {o : Option (β × Text)} {n : ℕ}
    (h : Ends (f ()) (s.drop n) o) : Ends (advance n >>= f) s o := by
  cases o <;> exact fun place ↦ h (place + n)

theorem ends_skipGap {f : Unit → Reader β} {o : Option (β × Text)}
    (h : Ends (f ()) (behindGap s) o) : Ends (skipGap >>= f) s o := by
  rw [← drop_takeWhile_isGap] at h
  cases o <;> exact fun place ↦ h (place + (s.takeWhile isGap).length)

end Runs

section Leaves

variable {s rest r : Text} {w : String} {v : Value} {E : Prop} {depth : ℕ}

theorem obeys_word (w : String) (v : Value) (s : Text) : Obeys (word? w v) s
    (fun o rest ↦ o = some v ∧ s = Text.ofString w ++ rest ∨ o = none ∧ rest = s) E := by
  refine obeys_get fun place ↦ ?_
  split
  · rename_i hprefix
    obtain ⟨rest, rfl⟩ := List.isPrefixOf_iff_prefix.mp hprefix
    refine obeys_advance (obeys_pure (.inl ⟨rfl, ?_⟩))
    rw [List.drop_left' rfl]
  · exact obeys_pure (.inr ⟨rfl, rfl⟩)

def firstWord (other : Reader Value) : List (String × Value) → Reader Value
  | [] => other
  | (w, v) :: ws => do
    if let some v ← word? w v then return v
    firstWord other ws

theorem scalar_eq : scalar = firstWord number words := rfl

theorem obeys_firstWord {other : Reader Value} {ws : List (String × Value)} (hws : ws ⊆ words)
    (hother : Obeys other s (fun v rest ↦ Denotes depth (.value v) s rest) E) :
    Obeys (firstWord other ws) s (fun v rest ↦ Denotes depth (.value v) s rest) E := by
  induction ws with
  | nil => exact hother
  | cons w ws ih =>
    obtain ⟨hw, hws⟩ := List.cons_subset.mp hws
    refine .bind (obeys_word w.1 w.2 s) fun o rest ho ↦ ?_
    rcases ho with ⟨rfl, rfl⟩ | ⟨rfl, rfl⟩
    · exact obeys_pure (.word hw)
    · exact ih hws

theorem obeys_number (s : Text) : Obeys number s (fun v rest ↦ Denotes depth (.value v) s rest)
    (Exceeds depth .value s) := by
  intro place
  obtain ⟨negative, body, hminus⟩ := exists_minus s
  by_cases hstart : StartsDigit body
  · obtain ⟨n, hn⟩ := exists_starts hminus hstart
    obtain ⟨place', hrun⟩ := hn.run_number_eq place
    rw [hrun]
    cases hv : n.value with
    | ok v =>
      refine ⟨fun a c h ↦ ?_, fun e h ↦ (nomatch h)⟩
      cases h
      exact .number hn hv
    | error e => exact ⟨fun a c h ↦ (nomatch h), fun _ _ _ ↦
        .integer hn (Numeral.value_eq_error_iff.mp hv).1⟩
  · rw [run_number_of_not_startsDigit hminus hstart]
    refine ⟨fun a c h ↦ (nomatch h), fun e h he ↦ ?_⟩
    cases h
    exact he.elim

theorem obeys_scalar (s : Text) : Obeys scalar s (fun v rest ↦ Denotes depth (.value v) s rest)
    (Exceeds depth .value s) := by
  rw [scalar_eq]
  exact obeys_firstWord (List.Subset.refl words) (obeys_number s)

theorem run_string_eq (s : Text) (place : ℕ) :
    string.run ⟨s, place⟩ = stringFrom place (s.drop 1) (place + 1) 0 := by
  rw [List.drop_one]
  cases hs : stringFrom place s.tail (place + 1) 0 <;> simp [string, hs]

theorem obeys_string (c : CodePoint) (s : Text) :
    Obeys string (c :: s) (fun t rest ↦ Spells s t rest) E := by
  intro place
  rw [run_string_eq]
  refine ⟨fun t c h ↦ spells_of_stringFrom h, fun e h he ↦ ?_⟩
  obtain ⟨fault, place', rfl⟩ := malformed_of_stringFrom h
  exact he.elim

theorem obeys_leafValue (s : Text) : Obeys leafValue s
    (fun v rest ↦ Denotes depth (.value v) s rest) (Exceeds depth .value s) := by
  refine obeys_get fun place ↦ ?_
  dsimp only
  split
  · exact .bind (obeys_string _ _) fun t rest ht ↦ obeys_pure (.string ht)
  · exact obeys_scalar s

theorem obeys_key (s : Text) : Obeys key s (fun k rest ↦ IsKey s k rest) E := by
  refine obeys_get fun place ↦ ?_
  dsimp only
  split
  · refine .bind (obeys_string _ _) fun k behind hk ↦ ?_
    refine obeys_skipGap (obeys_get fun place ↦ ?_)
    dsimp only
    split
    · rename_i behind' hcolon
      rw [hcolon]
      exact obeys_advance (obeys_skipGap (obeys_pure ⟨_, behind, behind', rfl, hk, hcolon, rfl⟩))
    · exact obeys_get fun place ↦ obeys_fail _ _
  · exact obeys_get fun place ↦ obeys_fail _ _

end Leaves

section Soundness

variable {depth : ℕ} {r : Reader Value}

theorem obeys_items (hr : ∀ s, Obeys r s (fun v rest ↦ Denotes depth (.value v) s rest)
      (Exceeds depth .value s)) (bound : ℕ) (s : Text) :
    Obeys (items r bound) s (fun vs rest ↦ Denotes depth (.items vs) s rest)
      (Exceeds depth .items s) := by
  induction bound generalizing s with
  | zero => exact obeys_get fun place ↦ obeys_fail _ _
  | succ bound ih =>
    refine .bind ((hr s).mono (fun _ _ h ↦ h) .item) fun v behind hv ↦ ?_
    refine obeys_skipGap (obeys_get fun place ↦ ?_)
    dsimp only
    split
    · rename_i rest hclose
      rw [hclose]
      exact obeys_advance (obeys_pure (.lastItem hv hclose))
    · rename_i behind' hcomma
      rw [hcomma]
      refine obeys_advance (obeys_skipGap ?_)
      refine .bind ((ih _).mono (fun _ _ h ↦ h) (.laterItem hv hcomma)) fun vs rest hvs ↦ ?_
      exact obeys_pure (.item hv hcomma hvs)
    · exact obeys_get fun place ↦ obeys_fail _ _

theorem obeys_members (hr : ∀ s, Obeys r s (fun v rest ↦ Denotes depth (.value v) s rest)
      (Exceeds depth .value s)) (bound : ℕ) (s : Text) :
    Obeys (members r bound) s (fun ms rest ↦ Denotes depth (.members ms) s rest)
      (Exceeds depth .members s) := by
  induction bound generalizing s with
  | zero => exact obeys_get fun place ↦ obeys_fail _ _
  | succ bound ih =>
    refine .bind (obeys_key s) fun k s' hkey ↦ ?_
    refine .bind ((hr s').mono (fun _ _ h ↦ h) (.member hkey)) fun v behind hv ↦ ?_
    refine obeys_skipGap (obeys_get fun place ↦ ?_)
    dsimp only
    split
    · rename_i rest hclose
      rw [hclose]
      exact obeys_advance (obeys_pure (.lastMember hkey hv hclose))
    · rename_i behind' hcomma
      rw [hcomma]
      refine obeys_advance (obeys_skipGap ?_)
      refine .bind ((ih _).mono (fun _ _ h ↦ h) (.laterMember hkey hv hcomma)) fun ms rest hms ↦ ?_
      exact obeys_pure (.member hkey hv hcomma hms)
    · exact obeys_get fun place ↦ obeys_fail _ _

/-- What is read of a text is what it denotes. -/
theorem obeys_value (bound depth : ℕ) (s : Text) : Obeys (value bound depth) s
    (fun v rest ↦ Denotes depth (.value v) s rest) (Exceeds depth .value s) := by
  induction depth generalizing s with
  | zero =>
    refine obeys_get fun place ↦ ?_
    dsimp only
    split
    · exact obeys_throw _ (.bracket (.inl rfl))
    · exact obeys_throw _ (.bracket (.inr rfl))
    · exact obeys_leafValue s
  | succ depth ih =>
    refine obeys_get fun place ↦ ?_
    dsimp only
    split
    · refine obeys_advance (obeys_skipGap (obeys_get fun place ↦ ?_))
      dsimp only
      split
      · rename_i rest hclose
        rw [hclose]
        exact obeys_advance (obeys_pure (.emptyArray hclose))
      · refine .bind ((obeys_items ih bound _).mono (fun _ _ h ↦ h) .array) fun vs rest hvs ↦ ?_
        exact obeys_pure (.array hvs)
    · refine obeys_advance (obeys_skipGap (obeys_get fun place ↦ ?_))
      dsimp only
      split
      · rename_i rest hclose
        rw [hclose]
        exact obeys_advance (obeys_pure (.emptyObject hclose))
      · refine .bind ((obeys_members ih bound _).mono (fun _ _ h ↦ h) .object) fun ms rest hms ↦ ?_
        exact obeys_pure (.object hms)
    · exact obeys_leafValue s

end Soundness

section Lengths

variable {s t rest key : Text}

theorem length_behindGap_le (s : Text) : (behindGap s).length ≤ s.length :=
  (List.dropWhile_suffix isGap).length_le

theorem length_lt_of_behindGap {c : CodePoint} (h : behindGap s = c :: rest) :
    rest.length < s.length := by
  have hs := length_behindGap_le s
  rw [h, List.length_cons] at hs
  omega

theorem Spells.length_lt (h : Spells s t rest) : rest.length < s.length := by
  induction h with
  | close => simp
  | self hquote hbackslash hc h ih => simp only [List.length_cons]; omega
  | simple hc h ih => simp only [List.length_cons]; omega
  | unit hn hsingle h ih => simp only [List.length_cons, List.length_drop] at ih ⊢; omega
  | pair hn hc h ih =>
    obtain ⟨-, behind, low, hr, -, -, rfl⟩ := hc
    have hlength := congrArg List.length hr
    simp only [List.length_cons, List.length_drop] at ih hlength ⊢
    omega

theorem IsKey.length_lt (h : IsKey s key rest) : rest.length < s.length := by
  obtain ⟨r, behind, behind', rfl, hkey, hcolon, rfl⟩ := h
  have hlength := hkey.length_lt
  have hlength' := length_lt_of_behindGap hcolon
  have hgap := length_behindGap_le behind'
  rw [List.length_cons]
  omega

theorem Spans.length_le (h : Spans s rest) : rest.length ≤ s.length := by
  obtain ⟨t, rfl, -⟩ := h
  simp

theorem Whole.length_lt {ds : List ℕ} (h : Whole s ds rest) : rest.length < s.length := by
  obtain ⟨c, hc, -⟩ := h.startsDigit
  obtain ⟨r, rfl⟩ := List.head?_eq_some_iff.mp hc
  have hdigits := List.length_pos_of_ne_nil h.ne_nil
  have hdrop := congrArg List.length h.drop_eq
  rw [List.length_drop, List.length_cons] at hdrop
  rw [List.length_cons]
  omega

theorem Numeral.Starts.length_lt {n : Numeral} (h : n.Starts s) : n.rest.length < s.length := by
  obtain ⟨body, behind, behind', hminus, hwhole, hfraction, hexponent⟩ := h
  have hbody := hminus.spans.length_le
  have hwhole := hwhole.length_lt
  have hbehind := hfraction.spans.length_le
  have hrest := hexponent.spans.length_le
  omega

theorem Denotes.length_lt {depth : ℕ} {content : Content} (h : Denotes depth content s rest) :
    rest.length < s.length := by
  induction h with
  | @word depth w v rest hw =>
    have hpos : ∀ w ∈ words.map (·.1), 0 < (Text.ofString w).length := by decide
    have hw : 0 < (Text.ofString w).length := hpos w (List.mem_map_of_mem hw)
    rw [List.length_append]
    omega
  | number hn hv => exact hn.length_lt
  | string h => exact h.length_lt.trans (Nat.lt_succ_self _)
  | emptyArray h => exact (length_lt_of_behindGap h).trans (Nat.lt_succ_self _)
  | array h ih => exact (ih.trans_le (length_behindGap_le _)).trans (Nat.lt_succ_self _)
  | emptyObject h => exact (length_lt_of_behindGap h).trans (Nat.lt_succ_self _)
  | object h ih => exact (ih.trans_le (length_behindGap_le _)).trans (Nat.lt_succ_self _)
  | lastItem hv hclose ih => exact (length_lt_of_behindGap hclose).trans ih
  | item hv hcomma hvs ih ihs =>
    exact (ihs.trans_le (length_behindGap_le _)).trans ((length_lt_of_behindGap hcomma).trans ih)
  | lastMember hkey hv hclose ih =>
    exact (length_lt_of_behindGap hclose).trans (ih.trans hkey.length_lt)
  | member hkey hv hcomma hms ih ihs =>
    exact (ihs.trans_le (length_behindGap_le _)).trans
      ((length_lt_of_behindGap hcomma).trans (ih.trans hkey.length_lt))

end Lengths

section Heads

variable {s rest : Text} {w : String} {v : Value} {depth : ℕ}

def StartsScalar (s : Text) : Prop :=
  ∃ c ∈ s.head?, c ≠ .char '\x22' ∧ c ≠ .char '[' ∧ c ≠ .char '\x7b' ∧ c ≠ .char ']' ∧
    c ≠ CodePoint.ofNat 0xfeff

def StartsValue (s : Text) : Prop := ∃ c ∈ s.head?, c ≠ .char ']' ∧ c ≠ CodePoint.ofNat 0xfeff

theorem StartsScalar.startsValue (h : StartsScalar s) : StartsValue s := by
  obtain ⟨c, hc, -, -, -, hvalue⟩ := h
  exact ⟨c, hc, hvalue⟩

theorem startsScalar_of_mem_words (hw : (w, v) ∈ words) (rest : Text) :
    StartsScalar (Text.ofString w ++ rest) := by
  have hheads : ∀ w ∈ words.map (·.1), ∃ c ∈ (Text.ofString w).head?, c ≠ .char '\x22' ∧
      c ≠ .char '[' ∧ c ≠ .char '\x7b' ∧ c ≠ .char ']' ∧ c ≠ CodePoint.ofNat 0xfeff := by decide
  obtain ⟨c, hc, hne⟩ := hheads w (List.mem_map_of_mem hw)
  exact ⟨c, List.mem_head?_append_of_mem_head? hc, hne⟩

theorem Numeral.Starts.startsScalar {n : Numeral} (h : n.Starts s) : StartsScalar s := by
  have hne : ∀ {c : CodePoint}, isNumeral c = true → c ≠ .char '\x22' ∧ c ≠ .char '[' ∧
      c ≠ .char '\x7b' ∧ c ≠ .char ']' ∧ c ≠ CodePoint.ofNat 0xfeff := by
    intro c hc
    refine ⟨?_, ?_, ?_, ?_, ?_⟩ <;> rintro rfl <;> revert hc <;> decide
  obtain ⟨body, behind, behind', hminus, hwhole, -, -⟩ := h
  rcases hminus.eq_or with rfl | rfl
  · exact ⟨_, rfl, hne rfl⟩
  · obtain ⟨c, hc, hdigit⟩ := hwhole.startsDigit
    exact ⟨c, hc, hne (isNumeral_of_digit? hdigit)⟩

theorem Denotes.startsValue {content : Content} (h : Denotes depth content s rest) :
    StartsValue s := by
  induction h with
  | word hw => exact (startsScalar_of_mem_words hw _).startsValue
  | number hn hv => exact hn.startsScalar.startsValue
  | string h => exact ⟨_, rfl, by decide⟩
  | emptyArray h => exact ⟨_, rfl, by decide⟩
  | array h ih => exact ⟨_, rfl, by decide⟩
  | emptyObject h => exact ⟨_, rfl, by decide⟩
  | object h ih => exact ⟨_, rfl, by decide⟩
  | lastItem hv hclose ih => exact ih
  | item hv hcomma hvs ih ihs => exact ih
  | lastMember hkey hv hclose ih =>
    obtain ⟨r, _, _, rfl, -⟩ := hkey
    exact ⟨_, rfl, by decide⟩
  | member hkey hv hcomma hms ih ihs =>
    obtain ⟨r, _, _, rfl, -⟩ := hkey
    exact ⟨_, rfl, by decide⟩

theorem Exceeds.startsValue {part : Part} (h : Exceeds depth part s) : StartsValue s := by
  induction h with
  | bracket hc =>
    refine ⟨_, rfl, ?_⟩
    rcases hc with rfl | rfl <;> decide
  | integer hn hlong => exact hn.startsScalar.startsValue
  | array h ih => exact ⟨_, rfl, by decide⟩
  | object h ih => exact ⟨_, rfl, by decide⟩
  | item h ih => exact ih
  | laterItem hv hcomma h ih => exact hv.startsValue
  | member hkey h ih =>
    obtain ⟨r, _, _, rfl, -⟩ := hkey
    exact ⟨_, rfl, by decide⟩
  | laterMember hkey hv hcomma h ih =>
    obtain ⟨r, _, _, rfl, -⟩ := hkey
    exact ⟨_, rfl, by decide⟩

end Heads

section Completeness

variable {α β : Type} {s t rest : Text} {w : String} {v : Value} {bound depth : ℕ}

theorem Ends.map {r : Reader α} {o : Option (α × Text)} (h : Ends r s o) (g : α → β) :
    Ends (do return g (← r)) s (o.map fun (a, rest) ↦ (g a, rest)) := by
  cases o with
  | none => exact .bind_limit h
  | some a => exact .bind h (ends_pure _ _)

theorem ends_firstWord_word {ws : List (String × Value)} {other : Reader Value}
    (hws : ws.Pairwise fun x y ↦
      ∀ rest, (Text.ofString x.1).isPrefixOf (Text.ofString y.1 ++ rest) = false)
    (hw : (w, v) ∈ ws) (rest : Text) :
    Ends (firstWord other ws) (Text.ofString w ++ rest) (some (v, rest)) := by
  induction ws with
  | nil => cases hw
  | cons x ws ih =>
    obtain ⟨hx, hws⟩ := List.pairwise_cons.mp hws
    rcases List.mem_cons.mp hw with rfl | hw
    · exact .bind (fun place ↦ ⟨_, reads_word w v rest place⟩) (ends_pure v rest)
    · exact .bind (fun place ↦ ⟨_, reads_noWord (hx _ hw rest) x.2 place⟩) (ih hws hw)

theorem ends_firstWord_other {ws : List (String × Value)} {other : Reader Value}
    {o : Option (Value × Text)} (hws : ∀ x ∈ ws, (Text.ofString x.1).isPrefixOf s = false)
    (h : Ends other s o) : Ends (firstWord other ws) s o := by
  induction ws with
  | nil => exact h
  | cons x ws ih =>
    obtain ⟨hx, hws⟩ := List.forall_mem_cons.mp hws
    exact .bind (fun place ↦ ⟨_, reads_noWord hx x.2 place⟩) (ih hws)

theorem isPrefixOf_eq_false_of_head {t : Text} (hs : s ≠ []) (h : s.head? ≠ t.head?) :
    s.isPrefixOf t = false := by
  cases s with
  | nil => exact absurd rfl hs
  | cons c s =>
    cases t with
    | nil => rfl
    | cons d t =>
      have hne : c ≠ d := fun hcd ↦ h (congrArg some hcd)
      rw [List.isPrefixOf_cons_cons, beq_false_of_ne hne, Bool.false_and]

theorem pairwise_words : words.Pairwise fun x y ↦
    ∀ rest, (Text.ofString x.1).isPrefixOf (Text.ofString y.1 ++ rest) = false := by
  have hheads : words.Pairwise fun x y ↦ Text.ofString x.1 ≠ [] ∧ Text.ofString y.1 ≠ [] ∧
      (Text.ofString x.1).head? ≠ (Text.ofString y.1).head? := by decide
  refine hheads.imp fun h rest ↦ isPrefixOf_eq_false_of_head h.1 ?_
  rw [List.head?_append_of_ne_nil _ h.2.1]
  exact h.2.2

theorem Numeral.Starts.isPrefixOf_eq_false {n : Numeral} (h : n.Starts s) :
    ∀ x ∈ words, (Text.ofString x.1).isPrefixOf s = false := by
  obtain ⟨body, behind, behind', hminus, hwhole, -, -⟩ := h
  obtain ⟨c, hc, hdigit⟩ := hwhole.startsDigit
  obtain ⟨r, rfl⟩ := List.head?_eq_some_iff.mp hc
  have hnone : ∀ d ∈ ['n', 't', 'f', 'N', 'I', '-'], digit? (.char d) = none := by
    simp only [List.forall_mem_cons]
    exact ⟨rfl, rfl, rfl, rfl, rfl, rfl, List.forall_mem_nil _⟩
  have hne : ∀ d ∈ ['n', 't', 'f', 'N', 'I', '-'], CodePoint.char d ≠ c := by
    rintro d hd rfl
    exact hdigit (hnone d hd)
  intro x hx
  simp only [words, List.mem_cons, List.not_mem_nil, or_false] at hx
  rcases hminus.eq_or with rfl | rfl <;> rcases hx with rfl | rfl | rfl | rfl | rfl | rfl <;>
    simp [Text.ofString, List.isPrefixOf, hne]

theorem ends_scalar_word (hw : (w, v) ∈ words) (rest : Text) :
    Ends scalar (Text.ofString w ++ rest) (some (v, rest)) := by
  rw [scalar_eq]
  exact ends_firstWord_word pairwise_words hw rest

theorem ends_scalar_number {n : Numeral} (hn : n.Starts s) {o : Option (Value × Text)}
    (h : Ends number s o) : Ends scalar s o :=
  scalar_eq ▸ ends_firstWord_other hn.isPrefixOf_eq_false h

theorem ends_number {n : Numeral} (hn : n.Starts s) (hv : n.value = .ok v) :
    Ends number s (some (v, n.rest)) := by
  intro place
  obtain ⟨place', hrun⟩ := hn.run_number_eq place
  rw [hv] at hrun
  exact ⟨place', hrun⟩

theorem ends_number_limit {n : Numeral} (hn : n.Starts s) (hlong : n.IsLong) :
    Ends number s none := by
  intro place
  obtain ⟨place', hrun⟩ := hn.run_number_eq place
  rw [Numeral.value_eq_error_iff.mpr ⟨hlong, rfl⟩] at hrun
  exact ⟨.longInteger, trivial, hrun⟩

theorem ends_string (c : CodePoint) (h : Spells s t rest) :
    Ends string (c :: s) (some (t, rest)) := by
  intro place
  rw [run_string_eq]
  exact h.stringFrom_eq place (place + 1)

theorem ends_key {key' : Text} (h : IsKey s key' rest) : Ends key s (some (key', rest)) := by
  obtain ⟨r, behind, behind', rfl, hkey, hcolon, rfl⟩ := h
  refine ends_get fun place ↦ .bind (ends_string _ hkey) (ends_skipGap (ends_get fun place ↦ ?_))
  dsimp only
  rw [hcolon]
  exact ends_advance (ends_skipGap (ends_pure _ _))

theorem ends_value_of_leaf {o : Option (Value × Text)} (harray : ∀ r, s ≠ .char '[' :: r)
    (hobject : ∀ r, s ≠ .char '\x7b' :: r) (h : Ends leafValue s o) :
    Ends (value bound depth) s o := by
  cases depth with
  | zero =>
    refine ends_get fun place ↦ ?_
    dsimp only
    split
    · exact absurd rfl (harray _)
    · exact absurd rfl (hobject _)
    · exact h
  | succ depth =>
    refine ends_get fun place ↦ ?_
    dsimp only
    split
    · exact absurd rfl (harray _)
    · exact absurd rfl (hobject _)
    · exact h

theorem ends_value_of_scalar {o : Option (Value × Text)} (hs : StartsScalar s)
    (h : Ends scalar s o) : Ends (value bound depth) s o := by
  obtain ⟨c, hc, hquote, harray, hobject, -⟩ := hs
  obtain ⟨r, rfl⟩ := List.head?_eq_some_iff.mp hc
  have hne : ∀ {d : CodePoint} {t : Text}, c ≠ d → c :: r ≠ d :: t :=
    fun hd heq ↦ hd (List.cons.inj heq).1
  refine ends_value_of_leaf (fun t ↦ hne harray) (fun t ↦ hne hobject) (ends_get fun place ↦ ?_)
  dsimp only
  split
  · exact absurd ‹_› (hne hquote)
  · exact h

theorem ends_value_string (h : Spells s t rest) :
    Ends (value bound depth) (.char '\x22' :: s) (some (.string t, rest)) := by
  have hne : ∀ {c : CodePoint} {r : Text}, .char '\x22' ≠ c → .char '\x22' :: s ≠ c :: r :=
    fun hc heq ↦ hc (List.cons.inj heq).1
  refine ends_value_of_leaf (fun r ↦ hne (by decide)) (fun r ↦ hne (by decide))
    (ends_get fun place ↦ ?_)
  exact .bind (ends_string _ h) (ends_pure (Value.string t) rest)

theorem ends_emptyArray (h : behindGap s = .char ']' :: rest) :
    Ends (value bound (depth + 1)) (.char '[' :: s) (some (.array [], rest)) := by
  have h : behindGap (List.drop 1 (.char '[' :: s)) = .char ']' :: rest := h
  refine ends_get fun place ↦ ends_advance (ends_skipGap (ends_get fun place ↦ ?_))
  dsimp only
  rw [h]
  exact ends_advance (ends_pure (Value.array []) rest)

theorem ends_emptyObject (h : behindGap s = .char '\x7d' :: rest) :
    Ends (value bound (depth + 1)) (.char '\x7b' :: s) (some (.object [], rest)) := by
  have h : behindGap (List.drop 1 (.char '\x7b' :: s)) = .char '\x7d' :: rest := h
  refine ends_get fun place ↦ ends_advance (ends_skipGap (ends_get fun place ↦ ?_))
  dsimp only
  rw [h]
  exact ends_advance (ends_pure (Value.object []) rest)

theorem ends_bracket {c : CodePoint} (hc : c = .char '[' ∨ c = .char '\x7b') (s : Text) :
    Ends (value bound 0) (c :: s) none := by
  refine ends_get fun place ↦ ?_
  rcases hc with rfl | rfl <;> exact ends_throw trivial

theorem ends_array {o : Option (List Value × Text)} (hs : StartsValue (behindGap s))
    (h : Ends (items (value bound depth) bound) (behindGap s) o) :
    Ends (value bound (depth + 1)) (.char '[' :: s) (o.map fun (vs, rest) ↦ (.array vs, rest)) := by
  obtain ⟨c, hc, hclose, -⟩ := hs
  refine ends_get fun place ↦ ends_advance (ends_skipGap (ends_get fun place ↦ ?_))
  dsimp only
  split
  · rename_i r hr
    have hr : behindGap s = _ := hr
    rw [hr] at hc
    exact absurd (Option.some.inj hc).symm hclose
  · exact h.map _

theorem ends_object {o : Option (List (Text × Value) × Text)}
    (hs : ∀ r, behindGap s ≠ .char '\x7d' :: r)
    (h : Ends (members (value bound depth) bound) (behindGap s) o) :
    Ends (value bound (depth + 1)) (.char '\x7b' :: s)
      (o.map fun (ms, rest) ↦ (.object (Keyed.ofList ms), rest)) := by
  refine ends_get fun place ↦ ends_advance (ends_skipGap (ends_get fun place ↦ ?_))
  dsimp only
  split
  · rename_i r hr
    exact absurd hr (hs r)
  · exact h.map _

def Content.IsRead (bound depth : ℕ) (s rest : Text) : Content → Prop
  | value v => Ends (Json.value bound depth) s (some (v, rest))
  | items vs => ∀ k, s.length ≤ k → Ends (Json.items (Json.value bound depth) k) s (some (vs, rest))
  | members ms =>
    ∀ k, s.length ≤ k → Ends (Json.members (Json.value bound depth) k) s (some (ms, rest))

def Part.IsRefused (bound depth : ℕ) (s : Text) : Part → Prop
  | value => Ends (Json.value bound depth) s none
  | items => ∀ k, s.length ≤ k → Ends (Json.items (Json.value bound depth) k) s none
  | members => ∀ k, s.length ≤ k → Ends (Json.members (Json.value bound depth) k) s none

theorem not_close_of_isKey {key : Text} (h : IsKey s key t) (r : Text) : s ≠ .char '\x7d' :: r := by
  obtain ⟨r', _, _, rfl, -⟩ := h
  exact fun heq ↦ absurd (List.cons.inj heq).1 (by decide)

theorem Denotes.isRead {content : Content} (h : Denotes depth content s rest)
    (hs : s.length ≤ bound) : content.IsRead bound depth s rest := by
  induction h with
  | @word depth w v rest hw =>
    exact ends_value_of_scalar (startsScalar_of_mem_words hw rest) (ends_scalar_word hw rest)
  | number hn hv =>
    exact ends_value_of_scalar hn.startsScalar (ends_scalar_number hn (ends_number hn hv))
  | string h => exact ends_value_string h
  | emptyArray h => exact ends_emptyArray h
  | @array depth vs s rest h ih =>
    have hlength := length_behindGap_le s
    rw [List.length_cons] at hs
    exact ends_array h.startsValue (ih (by omega) bound (by omega))
  | emptyObject h => exact ends_emptyObject h
  | @object depth ms s rest h ih =>
    have hlength := length_behindGap_le s
    rw [List.length_cons] at hs
    refine ends_object ?_ (ih (by omega) bound (by omega))
    cases h with
    | lastMember hkey => exact not_close_of_isKey hkey
    | member hkey => exact not_close_of_isKey hkey
  | @lastItem depth v s behind rest hv hclose ih =>
    rintro (_ | k) hk
    · have hlength := hv.length_lt
      omega
    · refine .bind (ih hs) (ends_skipGap (ends_get fun place ↦ ?_))
      dsimp only
      rw [hclose]
      exact ends_advance (ends_pure [v] rest)
  | @item depth v vs s behind behind' rest hv hcomma hvs ih ihs =>
    have hlength := hv.length_lt
    have hlength' := length_lt_of_behindGap hcomma
    have hgap := length_behindGap_le behind'
    rintro (_ | k) hk
    · omega
    · refine .bind (ih hs) (ends_skipGap (ends_get fun place ↦ ?_))
      dsimp only
      rw [hcomma]
      refine ends_advance (ends_skipGap ?_)
      exact .bind (ihs (by omega) k (by omega)) (ends_pure (v :: vs) rest)
  | @lastMember depth v s s' k' behind rest hkey hv hclose ih =>
    have hlength := hkey.length_lt
    rintro (_ | k) hk
    · omega
    · refine .bind (ends_key hkey) (.bind (ih (by omega)) (ends_skipGap (ends_get fun place ↦ ?_)))
      dsimp only
      rw [hclose]
      exact ends_advance (ends_pure [(k', v)] rest)
  | @member depth v ms s s' k' behind behind' rest hkey hv hcomma hms ih ihs =>
    have hlength := hkey.length_lt
    have hlength' := hv.length_lt
    have hlength'' := length_lt_of_behindGap hcomma
    have hgap := length_behindGap_le behind'
    rintro (_ | k) hk
    · omega
    · refine .bind (ends_key hkey) (.bind (ih (by omega)) (ends_skipGap (ends_get fun place ↦ ?_)))
      dsimp only
      rw [hcomma]
      refine ends_advance (ends_skipGap ?_)
      exact .bind (ihs (by omega) k (by omega)) (ends_pure ((k', v) :: ms) rest)

theorem Exceeds.isRefused {part : Part} (h : Exceeds depth part s) (hs : s.length ≤ bound) :
    part.IsRefused bound depth s := by
  induction h with
  | @bracket c s hc => exact ends_bracket hc s
  | integer hn hlong =>
    exact ends_value_of_scalar hn.startsScalar (ends_scalar_number hn (ends_number_limit hn hlong))
  | @array depth s h ih =>
    have hlength := length_behindGap_le s
    rw [List.length_cons] at hs
    exact ends_array h.startsValue (ih (by omega) bound (by omega))
  | @object depth s h ih =>
    have hlength := length_behindGap_le s
    rw [List.length_cons] at hs
    refine ends_object ?_ (ih (by omega) bound (by omega))
    cases h with
    | member hkey => exact not_close_of_isKey hkey
    | laterMember hkey => exact not_close_of_isKey hkey
  | @item depth s h ih =>
    obtain ⟨c, hc, -⟩ := h.startsValue
    rintro (_ | k) hk
    · rw [List.length_eq_zero_iff.mp (Nat.le_zero.mp hk)] at hc
      cases hc
    · exact .bind_limit (ih hs)
  | @laterItem depth v s behind behind' hv hcomma h ih =>
    have hlength := hv.length_lt
    have hlength' := length_lt_of_behindGap hcomma
    have hgap := length_behindGap_le behind'
    rintro (_ | k) hk
    · omega
    · refine .bind (hv.isRead hs) (ends_skipGap (ends_get fun place ↦ ?_))
      dsimp only
      rw [hcomma]
      exact ends_advance (ends_skipGap (.bind_limit (ih (by omega) k (by omega))))
  | @member depth s s' k' hkey h ih =>
    have hlength := hkey.length_lt
    rintro (_ | k) hk
    · omega
    · exact .bind (ends_key hkey) (.bind_limit (ih (by omega)))
  | @laterMember depth v s s' k' behind behind' hkey hv hcomma h ih =>
    have hlength := hkey.length_lt
    have hlength' := hv.length_lt
    have hlength'' := length_lt_of_behindGap hcomma
    have hgap := length_behindGap_le behind'
    rintro (_ | k) hk
    · omega
    · have hread : Ends (value bound depth) s' (some (v, behind)) := hv.isRead (by omega)
      refine .bind (ends_key hkey) (.bind hread (ends_skipGap (ends_get fun place ↦ ?_)))
      dsimp only
      rw [hcomma]
      exact ends_advance (ends_skipGap (.bind_limit (ih (by omega) k (by omega))))

end Completeness

section Documents

variable {t behind : Text} {v : Value}

theorem parse_eq (t : Text) : parse t =
    if t.head? = some (CodePoint.ofNat 0xfeff) then .error (.malformed .byteOrderMark 0)
    else match (parse.whole t).run ⟨t, 0⟩ with
      | .ok (v, c) => if c.rest.isEmpty then .ok v else .error (.malformed .extraData c.place)
      | .error e => .error e := by
  rw [parse]
  split
  · rfl
  · cases (parse.whole t).run ⟨t, 0⟩ <;> rfl

theorem obeys_whole (t : Text) : Obeys (parse.whole t) t
    (fun v rest ↦ ∃ behind, Denotes depthLimit (.value v) (behindGap t) behind ∧
      rest = behindGap behind) (Oversized t) := by
  refine obeys_skipGap (.bind (obeys_value _ _ _) fun v behind hv ↦ ?_)
  exact obeys_skipGap (obeys_pure ⟨behind, hv, rfl⟩)

theorem ends_whole (h : Denotes depthLimit (.value v) (behindGap t) behind) :
    Ends (parse.whole t) t (some (v, behindGap behind)) := by
  have hlength := length_behindGap_le t
  have hread : Ends (value (t.length + 1) depthLimit) (behindGap t) (some (v, behind)) :=
    h.isRead (by omega)
  exact ends_skipGap (.bind hread (ends_skipGap (ends_pure v _)))

theorem ends_whole_limit (h : Oversized t) : Ends (parse.whole t) t none := by
  have hlength := length_behindGap_le t
  have hrefused : Ends (value (t.length + 1) depthLimit) (behindGap t) none :=
    Exceeds.isRefused h (by omega)
  exact ends_skipGap (.bind_limit hrefused)

theorem head?_ne_byteOrderMark (h : StartsValue (behindGap t)) :
    t.head? ≠ some (CodePoint.ofNat 0xfeff) := by
  obtain ⟨c, hc, -, hmark⟩ := h
  intro ht
  obtain ⟨r, rfl⟩ := List.head?_eq_some_iff.mp ht
  have hgap : behindGap (CodePoint.ofNat 0xfeff :: r) = CodePoint.ofNat 0xfeff :: r :=
    List.dropWhile_cons_of_neg (by decide)
  rw [hgap] at hc
  exact hmark (Option.some.inj hc).symm

/-- A text is read as a document just if it holds one. -/
theorem parse_eq_ok_iff : parse t = .ok v ↔ Holds t v := by
  rw [parse_eq]
  constructor
  · intro h
    split at h
    · cases h
    split at h
    · rename_i hrun
      split at h
      · rename_i hrest
        cases h
        obtain ⟨behind, hv, hbehind⟩ := (obeys_whole t 0).1 _ _ hrun
        exact ⟨behind, hv, hbehind ▸ List.isEmpty_iff.mp hrest⟩
      · cases h
    · cases h
  · rintro ⟨behind, hv, hrest⟩
    obtain ⟨place, hrun⟩ := ends_whole hv 0
    rw [if_neg (head?_ne_byteOrderMark hv.startsValue), hrun, hrest]
    rfl

/-- Reading stops at a limit just where the text goes beyond one. -/
theorem parse_limit_iff : (∃ e, parse t = .error e ∧ e.IsLimit) ↔ Oversized t := by
  rw [parse_eq]
  constructor
  · rintro ⟨e, h, he⟩
    split at h
    · cases h
      exact he.elim
    split at h
    · split at h
      · cases h
      · cases h
        exact he.elim
    · rename_i hrun
      cases h
      exact (obeys_whole t 0).2 _ hrun he
  · intro h
    obtain ⟨e, he, hrun⟩ := ends_whole_limit h 0
    rw [if_neg (head?_ne_byteOrderMark (Exceeds.startsValue h)), hrun]
    exact ⟨e, rfl, he⟩

theorem Holds.not_oversized (h : Holds t v) : ¬ Oversized t := by
  rw [← parse_limit_iff, parse_eq_ok_iff.mpr h]
  rintro ⟨e, he, -⟩
  cases he

end Documents

end PackageAudit.Json
