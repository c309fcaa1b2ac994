import PackageAudit.Proofs.Decimal.Digits
import PackageAudit.Proofs.Json.Strings

namespace PackageAudit.Json

section Readers

variable {α β : Type} {t u behind : Text}

/-- The reader takes a text in front of another one, and answers with a value. -/
def Reads (r : Reader α) (t : Text) (a : α) (behind : Text) : Prop :=
  ∀ place, r.run ⟨t ++ behind, place⟩ = .ok (a, ⟨behind, place + t.length⟩)

theorem Reads.pure (a : α) (behind : Text) : Reads (pure a) [] a behind := fun _ ↦ rfl

theorem Reads.bind {r : Reader α} {f : α → Reader β} {a : α} {b : β}
    (hr : Reads r t a (u ++ behind)) (hf : Reads (f a) u b behind) :
    Reads (r >>= f) (t ++ u) b behind := by
  intro place
  rw [StateT.run_bind, List.append_assoc, hr place]
  have h := hf (place + t.length)
  rw [Nat.add_assoc, ← List.length_append] at h
  exact h

theorem Reads.get {f : Cursor → Reader β} {b : β}
    (hf : ∀ place, Reads (f ⟨t ++ behind, place⟩) t b behind) :
    Reads (get >>= f) t b behind := fun place ↦ hf place place

theorem reads_advance (t behind : Text) : Reads (advance t.length) t () behind := by
  intro place
  have hdrop : (t ++ behind).drop t.length = behind := List.drop_left' rfl
  rw [advance]
  simp only [StateT.run_modify, hdrop]
  rfl

theorem reads_one (c : CodePoint) (behind : Text) : Reads (advance 1) [c] () behind :=
  reads_advance [c] behind

def StartsNoGap (t : Text) : Prop := ∀ c ∈ t.head?, isGap c = false

theorem startsNoGap_cons {c : CodePoint} (h : isGap c = false) (t : Text) : StartsNoGap (c :: t) := by
  intro d hd
  cases hd
  exact h

theorem reads_skipGap (ht : ∀ c ∈ t, isGap c = true) (hbehind : StartsNoGap behind) :
    Reads skipGap t () behind := by
  have hwhile : (t ++ behind).takeWhile isGap = t := by
    rw [List.takeWhile_append_of_pos ht]
    cases behind with
    | nil => simp
    | cons c behind => simp [hbehind c rfl]
  refine .get fun place ↦ ?_
  simp only [hwhile]
  exact reads_advance t behind

theorem Reads.behindGap {f : Unit → Reader β} {b : β} (ht : ∀ c ∈ t, isGap c = true)
    (hbehind : StartsNoGap (u ++ behind)) (hf : Reads (f ()) u b behind) :
    Reads (skipGap >>= f) (t ++ u) b behind :=
  .bind (reads_skipGap ht hbehind) hf

theorem Reads.behindNoGap {f : Unit → Reader β} {b : β} (hbehind : StartsNoGap (u ++ behind))
    (hf : Reads (f ()) u b behind) : Reads (skipGap >>= f) u b behind :=
  .behindGap (t := []) (fun _ hc ↦ nomatch hc) hbehind hf

theorem writeString_eq (charset : Charset) (t : Text) : writeString charset t =
    .char '"' :: (t.flatMap (escapeCodePoint charset) ++ [.char '"']) := by
  simp only [writeString, List.append_assoc]
  rfl

theorem run_string {c c' : Cursor} (h : stringFrom c.place (c.rest.drop 1) (c.place + 1) 0 =
    .ok (t, c')) : string.run c = .ok (t, c') := by
  simpa [string] using h

theorem reads_string {charset : Charset} (h : charset.Keeps t) (behind : Text) :
    Reads string (writeString charset t) t behind := by
  intro place
  have hwritten : writeString charset t ++ behind =
      .char '"' :: (t.flatMap (escapeCodePoint charset) ++ .char '"' :: behind) := by
    simp [writeString, Text.ofString]
  have hlength : place + 1 + (t.flatMap (escapeCodePoint charset)).length + 1 =
      place + (writeString charset t).length := by
    simp [writeString, Text.ofString]
    omega
  have hread := stringFrom_written h behind place (place + 1)
  rw [hlength] at hread
  exact run_string (hwritten ▸ hread)

end Readers

section Numbers

variable {behind : Text}

def EndsNumber (behind : Text) : Prop := ∀ c ∈ behind.head?, isNumeral c = false

theorem isNumeral_of_isDigit {c : Char} (h : c.isDigit = true) : isNumeral (.char c) = true := by
  obtain ⟨hlow, hhigh⟩ := Char.isDigit_iff_toNat.mp h
  have hc : ('0' ≤ c && c ≤ '9') = true := by
    rw [Bool.and_eq_true, decide_eq_true_eq, decide_eq_true_eq]
    exact ⟨hlow, hhigh⟩
  simp only [isNumeral, hc, Bool.true_or]

theorem isGap_of_isNumeral {c : CodePoint} (h : isNumeral c = true) : isGap c = false := by
  cases hgap : isGap c with
  | false => rfl
  | true =>
    cases c with
    | surrogate s => cases hgap
    | char c =>
      simp only [isGap, Bool.or_eq_true, decide_eq_true_eq] at hgap
      rcases hgap with ((rfl | rfl) | rfl) | rfl <;> simp [isNumeral] at h

theorem writeInteger_eq (n : ℤ) : writeInteger n =
    (if n < 0 then [.char '-'] else []) ++ Text.ofChars (Nat.toDigits 10 n.natAbs) := by
  rw [writeInteger, Decimal.ofNat_eq_ofChars]
  split <;> rfl

theorem isNumeral_of_mem_writeInteger (n : ℤ) : ∀ c ∈ writeInteger n, isNumeral c = true := by
  intro c hc
  rw [writeInteger_eq, List.mem_append] at hc
  rcases hc with hminus | hdigit
  · split at hminus
    · rw [List.mem_singleton.mp hminus]
      rfl
    · cases hminus
  · obtain ⟨d, hd, rfl⟩ := List.mem_map.mp hdigit
    exact isNumeral_of_isDigit (Decimal.isDigit_of_mem_toDigits hd)

theorem takeWhile_isNumeral_writeInteger (n : ℤ) (h : EndsNumber behind) :
    (writeInteger n ++ behind).takeWhile isNumeral = writeInteger n := by
  have hnone : behind.takeWhile isNumeral = [] := by
    cases behind with
    | nil => rfl
    | cons c behind => simp [h c rfl]
  rw [List.takeWhile_append_of_pos (isNumeral_of_mem_writeInteger n), hnone, List.append_nil]

theorem writeInteger_cases (n : ℤ) : ∃ (d : Char) (r : Text), d.isDigit = true ∧
    (writeInteger n = .char d :: r ∨ writeInteger n = .char '-' :: .char d :: r) := by
  cases hd : Nat.toDigits 10 n.natAbs with
  | nil => exact absurd hd Nat.toDigits_ne_nil
  | cons d ds =>
    have hdigit : d.isDigit = true :=
      Decimal.isDigit_of_mem_toDigits (hd ▸ List.mem_cons_self)
    refine ⟨d, Text.ofChars ds, hdigit, ?_⟩
    rw [writeInteger_eq, hd]
    split
    · exact .inr rfl
    · exact .inl rfl

theorem isPrefixOf_writeInteger {w : String}
    (hw : w ∈ ["null", "true", "false", "NaN", "Infinity", "-Infinity"]) (n : ℤ) (behind : Text) :
    (Text.ofString w).isPrefixOf (writeInteger n ++ behind) = false := by
  obtain ⟨d, r, hd, hn⟩ := writeInteger_cases n
  have hne : ∀ c : Char, c.isDigit = false → c ≠ d := by
    rintro c hc rfl
    rw [hd] at hc
    cases hc
  simp only [List.mem_cons, List.not_mem_nil, or_false] at hw
  rcases hn with hn | hn <;> rcases hw with rfl | rfl | rfl | rfl | rfl | rfl <;>
    rw [hn] <;> simp [Text.ofString, List.isPrefixOf, hne]

theorem wholeOf_toDigits (n : ℕ) : Numeral.wholeOf (Text.ofChars (Nat.toDigits 10 n)) =
    (Nat.toDigits 10 n).map (·.toNat - 48) := by
  have htake : Decimal.takeDigits .strict (Text.ofChars (Nat.toDigits 10 n)) false =
      ((Nat.toDigits 10 n).map (·.toNat - 48), []) := by
    have h := Decimal.takeDigits_ofChars (fun c hc ↦ Decimal.isDigit_of_mem_toDigits (n := n) hc)
      (fun c (hc : c ∈ [].head?) ↦ nomatch hc) false
    rwa [List.append_nil] at h
  unfold Numeral.wholeOf
  split
  · rename_i r hr
    cases hd : Nat.toDigits 10 n with
    | nil => exact absurd hd Nat.toDigits_ne_nil
    | cons c cs =>
      rw [hd] at hr
      obtain ⟨hc, -⟩ := List.cons.inj hr
      obtain rfl : c = '0' := CodePoint.char.inj hc
      obtain ⟨-, rfl⟩ := Decimal.toDigits_eq_zero_cons hd
      rfl
  · rw [htake]

theorem takeMinus_writeInteger (n : ℤ) : Numeral.takeMinus (writeInteger n) =
    (decide (n < 0), Text.ofChars (Nat.toDigits 10 n.natAbs)) := by
  rw [writeInteger_eq]
  split
  · rename_i hn
    simp [Numeral.takeMinus, hn]
  · rename_i hn
    unfold Numeral.takeMinus
    split
    · rename_i r hr
      have hmem : '-' ∈ Nat.toDigits 10 n.natAbs := by
        have h : CodePoint.char '-' ∈ Text.ofChars (Nat.toDigits 10 n.natAbs) := by
          rw [List.nil_append] at hr
          exact hr ▸ List.mem_cons_self
        obtain ⟨c, hc, hminus⟩ := List.mem_map.mp h
        exact CodePoint.char.inj hminus ▸ hc
      exact absurd (Decimal.isDigit_of_mem_toDigits hmem) (by decide)
    · simp [hn]

theorem numeral_ofText (n : ℤ) : Numeral.ofText (writeInteger n) =
    ⟨decide (n < 0), (Nat.toDigits 10 n.natAbs).map (·.toNat - 48), [], none, []⟩ := by
  have hdrop : (Text.ofChars (Nat.toDigits 10 n.natAbs)).drop
      ((Nat.toDigits 10 n.natAbs).map (·.toNat - 48)).length = [] :=
    List.drop_of_length_le (by simp [Text.ofChars])
  simp only [Numeral.ofText, takeMinus_writeInteger, wholeOf_toDigits, hdrop]
  rfl

theorem reads_number {n : ℤ} (hn : (Nat.toDigits 10 n.natAbs).length ≤ digitLimit)
    (h : EndsNumber behind) : Reads number (writeInteger n) (.integer n) behind := by
  have hsign : (if n < 0 then -(n.natAbs : ℤ) else n.natAbs) = n := by omega
  have hvalue : (Numeral.ofText (writeInteger n)).value = .ok (.integer n) := by
    rw [numeral_ofText]
    simp only [Numeral.value, List.isEmpty_nil, Option.isNone_none, Bool.and_self, if_true,
      List.length_map, Nat.not_lt.mpr hn, if_false, decide_eq_true_eq, Decimal.ofDigits_toDigits, hsign]
  have hwhole : (Numeral.ofText (writeInteger n)).whole.isEmpty = false := by
    rw [numeral_ofText]
    simp [Nat.toDigits_ne_nil]
  have hrest : (Numeral.ofText (writeInteger n)).rest = [] := by rw [numeral_ofText]
  refine .get fun place ↦ ?_
  dsimp only
  rw [takeWhile_isNumeral_writeInteger n h, hwhole, hvalue, hrest, if_neg Bool.false_ne_true,
    ← List.append_nil (writeInteger n)]
  refine .bind (a := ()) ?_ fun place ↦ rfl
  simpa using reads_advance (writeInteger n) behind

end Numbers

section Leaves

variable {charset : Charset}

theorem reads_word (w : String) (v : Value) (behind : Text) :
    Reads (word? w v) (Text.ofString w) (some v) behind := by
  refine .get fun place ↦ ?_
  have hhere : (Text.ofString w).isPrefixOf (Text.ofString w ++ behind) = true := by
    rw [List.isPrefixOf_iff_prefix]
    exact List.prefix_append _ _
  rw [if_pos hhere, ← List.append_nil (Text.ofString w)]
  refine .bind (a := ()) ?_ (.pure _ _)
  simpa using reads_advance (Text.ofString w) behind

theorem reads_noWord {w : String} {behind : Text}
    (h : (Text.ofString w).isPrefixOf behind = false) (v : Value) :
    Reads (word? w v) [] none behind := by
  refine .get fun place ↦ ?_
  rw [List.nil_append, h, if_neg Bool.false_ne_true]
  exact .pure _ _

theorem reads_null (behind : Text) : Reads scalar (Text.ofString "null") .null behind := by
  rw [← List.append_nil (Text.ofString _)]
  exact .bind (reads_word _ _ _) (.pure _ _)

theorem reads_true (behind : Text) : Reads scalar (Text.ofString "true") (.bool true) behind := by
  rw [← List.nil_append (Text.ofString _)]
  refine .bind (reads_noWord rfl _) ?_
  rw [← List.append_nil (Text.ofString _)]
  exact .bind (reads_word _ _ _) (.pure _ _)

theorem reads_false (behind : Text) : Reads scalar (Text.ofString "false") (.bool false) behind := by
  rw [← List.nil_append (Text.ofString _)]
  refine .bind (reads_noWord rfl _) ?_
  rw [← List.nil_append (Text.ofString _)]
  refine .bind (reads_noWord rfl _) ?_
  rw [← List.append_nil (Text.ofString _)]
  exact .bind (reads_word _ _ _) (.pure _ _)

theorem reads_integer {n : ℤ} {behind : Text} (hn : (Nat.toDigits 10 n.natAbs).length ≤ digitLimit)
    (h : EndsNumber behind) : Reads scalar (writeInteger n) (.integer n) behind := by
  have hword : ∀ w ∈ ["null", "true", "false", "NaN", "Infinity", "-Infinity"], ∀ v,
      Reads (word? w v) [] none (writeInteger n ++ behind) :=
    fun w hw v ↦ reads_noWord (isPrefixOf_writeInteger hw n behind) v
  refine .bind (t := []) (hword "null" (by simp) _) ?_
  refine .bind (t := []) (hword "true" (by simp) _) ?_
  refine .bind (t := []) (hword "false" (by simp) _) ?_
  refine .bind (t := []) (hword "NaN" (by simp) _) ?_
  refine .bind (t := []) (hword "Infinity" (by simp) _) ?_
  refine .bind (t := []) (hword "-Infinity" (by simp) _) ?_
  exact reads_number hn h

theorem reads_key {t behind : Text} (ht : charset.Keeps t)
    (hgap : StartsNoGap behind) :
    Reads key (writeString charset t ++ ([.char ':'] ++ [.char ' '])) t behind := by
  have hspace : ∀ c ∈ [CodePoint.char ' '], isGap c = true := by decide
  obtain ⟨r, hr⟩ : ∃ r, writeString charset t ++ ([.char ':'] ++ [.char ' ']) ++ behind =
      .char '"' :: r := ⟨_, by rw [writeString_eq]; rfl⟩
  refine .get fun place ↦ ?_
  rw [hr]
  refine .bind (reads_string ht _) (.behindNoGap (startsNoGap_cons rfl _) ?_)
  refine .get fun place ↦ ?_
  refine .bind (reads_one (.char ':') _) ?_
  rw [← List.append_nil [CodePoint.char ' ']]
  exact .behindGap hspace hgap (.pure _ _)

theorem reads_value_of_leaf {bound depth : ℕ} {c : CodePoint} {t behind : Text} {v : Value}
    (harray : c ≠ .char '[') (hobject : c ≠ .char '\x7b')
    (h : Reads leafValue (c :: t) v behind) : Reads (value bound depth) (c :: t) v behind := by
  have hne : ∀ {b : CodePoint} {r : Text}, c ≠ b → c :: t ++ behind ≠ b :: r :=
    fun hb heq ↦ hb (List.cons.inj heq).1
  cases depth with
  | zero =>
    refine .get fun place ↦ ?_
    dsimp only
    split
    · exact absurd ‹_› (hne harray)
    · exact absurd ‹_› (hne hobject)
    · exact h
  | succ depth =>
    refine .get fun place ↦ ?_
    dsimp only
    split
    · exact absurd ‹_› (hne harray)
    · exact absurd ‹_› (hne hobject)
    · exact h

theorem reads_value_of_scalar {bound depth : ℕ} {t : Text} {v : Value} {behind : Text}
    (h : ∃ c r, t = c :: r ∧ c ≠ .char '[' ∧ c ≠ .char '\x7b' ∧ c ≠ .char '"')
    (hread : Reads scalar t v behind) : Reads (value bound depth) t v behind := by
  obtain ⟨c, r, rfl, harray, hobject, hquote⟩ := h
  refine reads_value_of_leaf harray hobject (.get fun place ↦ ?_)
  dsimp only
  split
  · exact absurd (List.cons.inj ‹_›).1 hquote
  · exact hread

theorem reads_value_of_string {bound depth : ℕ} {t : Text} (h : charset.Keeps t) (behind : Text) :
    Reads (value bound depth) (writeString charset t) (.string t) behind := by
  have hread : Reads (do return Value.string (← string)) (writeString charset t) (.string t)
      behind := by
    rw [← List.append_nil (writeString _ _)]
    exact .bind (reads_string h _) (.pure _ _)
  rw [writeString_eq] at hread ⊢
  exact reads_value_of_leaf (by decide) (by decide) (.get fun _ ↦ hread)

end Leaves

end PackageAudit.Json
