import PackageAudit.Proofs.Json.Readers
import PackageAudit.Proofs.Keyed

namespace PackageAudit.Json

section Texts

variable (charset : Charset) (level : ℕ)

theorem write_array_cons (v : Value) (vs : List Value) :
    write charset level (.array (v :: vs)) = [.char '['] ++ (newLine (level + 1) ++
      (write charset (level + 1) v ++ (writeItems charset (level + 1) vs ++
        (newLine level ++ [.char ']'])))) := by
  simp only [write, List.append_assoc]
  rfl

theorem writeItems_cons (v : Value) (vs : List Value) (behind : Text) :
    writeItems charset level (v :: vs) ++ behind = [.char ','] ++ (newLine level ++
      (write charset level v ++ (writeItems charset level vs ++ behind))) := by
  simp only [writeItems, List.append_assoc]
  rfl

def writeFrom (k : ℕ) (key : Text) (v : Value) (ms : List (Text × Value)) : Text :=
  writeString charset key ++ ([.char ':'] ++ ([.char ' '] ++ (write charset level v ++
    (writeMembers charset level ms ++ (newLine k ++ [.char '\x7d'])))))

theorem writeFrom_eq (k : ℕ) (key : Text) (v : Value) (ms : List (Text × Value)) :
    writeFrom charset level k key v ms = writeString charset key ++ ([.char ':'] ++ [.char ' ']) ++
      (write charset level v ++ (writeMembers charset level ms ++ (newLine k ++ [.char '\x7d']))) := by
  simp only [writeFrom, List.append_assoc]

theorem write_object_cons (key : Text) (v : Value) (ms : List (Text × Value)) :
    write charset level (.object ((key, v) :: ms)) = [.char '\x7b'] ++ (newLine (level + 1) ++
      writeFrom charset (level + 1) level key v ms) := by
  simp only [write, writeFrom, List.append_assoc]
  rfl

theorem writeMembers_cons (key : Text) (v : Value) (ms : List (Text × Value)) (k : ℕ) :
    writeMembers charset level ((key, v) :: ms) ++ (newLine k ++ [.char '\x7d']) =
      [.char ','] ++ (newLine level ++ writeFrom charset level k key v ms) := by
  simp only [writeMembers, writeFrom, List.append_assoc]
  rfl

theorem newLine_eq : newLine level = .char '\n' :: List.replicate (2 * level) (.char ' ') := rfl

theorem isGap_of_mem_newLine {c : CodePoint} (h : c ∈ newLine level) : isGap c = true := by
  rw [newLine_eq, List.mem_cons, List.mem_replicate] at h
  rcases h with rfl | ⟨-, rfl⟩ <;> rfl

end Texts

/-- Values that can be written and read back: without floats, with distinct keys, inside the limits
on digits and depth, and with strings that the charset keeps. -/
inductive Value.IsWritable (charset : Charset) : (depth : ℕ) → Value → Prop
  | null {depth : ℕ} : IsWritable charset depth .null
  | bool {depth : ℕ} (b : Bool) : IsWritable charset depth (.bool b)
  | integer {depth : ℕ} {n : ℤ} : (Nat.toDigits 10 n.natAbs).length ≤ digitLimit →
      IsWritable charset depth (.integer n)
  | string {depth : ℕ} {t : Text} : charset.Keeps t → IsWritable charset depth (.string t)
  | array {depth : ℕ} {vs : List Value} : (∀ v ∈ vs, IsWritable charset depth v) →
      IsWritable charset (depth + 1) (.array vs)
  | object {depth : ℕ} {ms : List (Text × Value)} : (Keyed.keys ms).Nodup →
      (∀ m ∈ ms, charset.Keeps m.1) → (∀ m ∈ ms, IsWritable charset depth m.2) →
      IsWritable charset (depth + 1) (.object ms)

section Values

variable {charset : Charset}

def Opens (c : CodePoint) : Prop :=
  isGap c = false ∧ c ≠ .char ']' ∧ c ≠ CodePoint.ofNat 0xfeff

theorem opens_of_isDigit {d : Char} (h : d.isDigit = true) : Opens (.char d) := by
  have hne : ∀ c : Char, c.isDigit = false → CodePoint.char d ≠ .char c := by
    rintro c hc heq
    rw [CodePoint.char.inj heq, hc] at h
    cases h
  exact ⟨isGap_of_isNumeral (isNumeral_of_isDigit h), hne ']' rfl, hne '\ufeff' rfl⟩

theorem write_head {depth : ℕ} {v : Value} (h : v.IsWritable charset depth) (level : ℕ) :
    ∃ c r, write charset level v = c :: r ∧ Opens c := by
  cases h with
  | null => exact ⟨_, _, rfl, rfl, by decide⟩
  | bool b => cases b <;> exact ⟨_, _, rfl, rfl, by decide⟩
  | integer =>
    rename_i n _
    obtain ⟨d, r, hd, hn | hn⟩ := writeInteger_cases n
    · exact ⟨_, _, by rw [write, hn], opens_of_isDigit hd⟩
    · exact ⟨_, _, by rw [write, hn], rfl, by decide⟩
  | string =>
    rw [write, writeString_eq]
    exact ⟨_, _, rfl, rfl, by decide⟩
  | @array _ vs =>
    cases vs with
    | nil => exact ⟨_, _, rfl, rfl, by decide⟩
    | cons v vs =>
      rw [write_array_cons]
      exact ⟨_, _, rfl, rfl, by decide⟩
  | @object _ ms =>
    cases ms with
    | nil => exact ⟨_, _, rfl, rfl, by decide⟩
    | cons m ms =>
      rw [write_object_cons]
      exact ⟨_, _, rfl, rfl, by decide⟩

/-- The reader takes the text of a value in front of anything that ends a number. -/
structure Value.IsReadable (charset : Charset) (r : Reader Value) (level : ℕ) (v : Value) : Prop where
  opens : ∃ c t, write charset level v = c :: t ∧ Opens c
  reads : ∀ behind, EndsNumber behind → Reads r (write charset level v) v behind

theorem Value.IsReadable.startsNoGap {r : Reader Value} {level : ℕ} {v : Value}
    (h : v.IsReadable charset r level) (behind : Text) :
    StartsNoGap (write charset level v ++ behind) := by
  obtain ⟨d, t, hd, hgap, -⟩ := h.opens
  rw [hd]
  exact startsNoGap_cons hgap _

theorem reads_items {r : Reader Value} {level k bound : ℕ} {v : Value} {vs : List Value}
    (h : ∀ w ∈ v :: vs, w.IsReadable charset r level) (hbound : vs.length < bound)
    (behind : Text) :
    Reads (items r bound) (write charset level v ++ (writeItems charset level vs ++
      (newLine k ++ [.char ']']))) (v :: vs) behind := by
  induction vs generalizing v bound with
  | nil =>
    obtain ⟨bound, rfl⟩ := Nat.exists_eq_succ_of_ne_zero (Nat.ne_of_gt hbound)
    rw [writeItems, List.nil_append]
    refine .bind ((h v List.mem_cons_self).reads _ fun c hc ↦ by cases hc; rfl) ?_
    refine .behindGap (fun c ↦ isGap_of_mem_newLine k) (startsNoGap_cons rfl _) ?_
    refine .get fun place ↦ ?_
    exact .bind (reads_one (.char ']') _) (.pure _ _)
  | cons w vs ih =>
    obtain ⟨bound, rfl⟩ := Nat.exists_eq_succ_of_ne_zero (Nat.ne_of_gt (Nat.zero_lt_of_lt hbound))
    have hrest := ih (fun u hu ↦ h u (List.mem_cons_of_mem v hu)) (Nat.lt_of_succ_lt_succ hbound)
    rw [writeItems_cons]
    refine .bind ((h v List.mem_cons_self).reads _ fun c hc ↦ by cases hc; rfl) ?_
    refine .behindNoGap (startsNoGap_cons rfl _) (.get fun place ↦ ?_)
    refine .bind (reads_one (.char ',') _) ?_
    refine .behindGap (fun c ↦ isGap_of_mem_newLine level) ?_ ?_
    · rw [List.append_assoc]
      exact (h w (by simp)).startsNoGap _
    rw [← List.append_nil (write charset level w ++ _)]
    exact .bind hrest (.pure _ _)

theorem reads_members {r : Reader Value} {level k bound : ℕ} {key : Text} {v : Value}
    {ms : List (Text × Value)} (hkey : ∀ m ∈ (key, v) :: ms, charset.Keeps m.1)
    (h : ∀ m ∈ (key, v) :: ms, m.2.IsReadable charset r level)
    (hbound : ms.length < bound) (behind : Text) :
    Reads (members r bound) (writeFrom charset level k key v ms) ((key, v) :: ms) behind := by
  induction ms generalizing key v bound with
  | nil =>
    obtain ⟨bound, rfl⟩ := Nat.exists_eq_succ_of_ne_zero (Nat.ne_of_gt hbound)
    have hv := h _ List.mem_cons_self
    rw [writeFrom_eq, writeMembers, List.nil_append]
    refine .bind (reads_key (hkey _ List.mem_cons_self) ?_) ?_
    · rw [List.append_assoc]
      exact hv.startsNoGap _
    refine .bind (hv.reads _ fun c hc ↦ by cases hc; rfl) ?_
    refine .behindGap (fun c ↦ isGap_of_mem_newLine k) (startsNoGap_cons rfl _) ?_
    refine .get fun place ↦ ?_
    exact .bind (reads_one (.char '\x7d') _) (.pure _ _)
  | cons m ms ih =>
    obtain ⟨bound, rfl⟩ := Nat.exists_eq_succ_of_ne_zero (Nat.ne_of_gt (Nat.zero_lt_of_lt hbound))
    have hv := h _ List.mem_cons_self
    have hrest := ih (fun n hn ↦ hkey n (List.mem_cons_of_mem _ hn))
      (fun n hn ↦ h n (List.mem_cons_of_mem _ hn)) (Nat.lt_of_succ_lt_succ hbound)
    rw [writeFrom_eq, writeMembers_cons]
    refine .bind (reads_key (hkey _ List.mem_cons_self) ?_) ?_
    · rw [List.append_assoc]
      exact hv.startsNoGap _
    refine .bind (hv.reads _ fun c hc ↦ by cases hc; rfl) ?_
    refine .behindNoGap (startsNoGap_cons rfl _) (.get fun place ↦ ?_)
    refine .bind (reads_one (.char ',') _) ?_
    refine .behindGap (fun c ↦ isGap_of_mem_newLine level) ?_ ?_
    · rw [writeFrom, writeString_eq]
      exact startsNoGap_cons rfl _
    rw [← List.append_nil (writeFrom _ _ _ _ _ _)]
    exact .bind hrest (.pure _ _)

theorem reads_array {bound depth level : ℕ} {v : Value} {vs : List Value}
    (h : ∀ w ∈ v :: vs, w.IsReadable charset (value bound depth) (level + 1))
    (hbound : vs.length < bound) (behind : Text) :
    Reads (value bound (depth + 1)) (write charset level (.array (v :: vs))) (.array (v :: vs))
      behind := by
  rw [write_array_cons]
  refine .get fun place ↦ ?_
  refine .bind (reads_one (.char '[') _) ?_
  refine .behindGap (fun c ↦ isGap_of_mem_newLine _) ?_ ?_
  · rw [List.append_assoc]
    exact (h v List.mem_cons_self).startsNoGap _
  refine .get fun place ↦ ?_
  dsimp only
  split
  · obtain ⟨d, t, hd, -, hbracket, -⟩ := (h v List.mem_cons_self).opens
    rename_i hclosed
    rw [hd] at hclosed
    exact absurd (List.cons.inj hclosed).1 hbracket
  · rw [← List.append_nil (write _ _ _ ++ _)]
    exact .bind (reads_items h hbound _) (.pure _ _)

theorem reads_object {bound depth level : ℕ} {key : Text} {v : Value} {ms : List (Text × Value)}
    (hkeys : (Keyed.keys ((key, v) :: ms)).Nodup) (hkeep : ∀ m ∈ (key, v) :: ms, charset.Keeps m.1)
    (h : ∀ m ∈ (key, v) :: ms, m.2.IsReadable charset (value bound depth) (level + 1))
    (hbound : ms.length < bound) (behind : Text) :
    Reads (value bound (depth + 1)) (write charset level (.object ((key, v) :: ms)))
      (.object ((key, v) :: ms)) behind := by
  have hopen : ∀ rest, ∃ r, writeFrom charset (level + 1) level key v ms ++ rest =
      .char '"' :: r := by
    intro rest
    rw [writeFrom, writeString_eq]
    exact ⟨_, rfl⟩
  rw [write_object_cons]
  refine .get fun place ↦ ?_
  refine .bind (reads_one (.char '\x7b') _) ?_
  refine .behindGap (fun c ↦ isGap_of_mem_newLine _) ?_ ?_
  · obtain ⟨r, hr⟩ := hopen behind
    rw [hr]
    exact startsNoGap_cons rfl _
  refine .get fun place ↦ ?_
  dsimp only
  split
  · obtain ⟨r, hr⟩ := hopen behind
    rename_i hbrace
    rw [hr] at hbrace
    exact absurd (List.cons.inj hbrace).1 (by decide)
  · rw [← List.append_nil (writeFrom _ _ _ _ _ _)]
    refine .bind (reads_members hkeep h hbound _) ?_
    rw [Keyed.ofList_of_nodup hkeys]
    exact .pure _ _

theorem writeItems_eq_flatMap (level : ℕ) (vs : List Value) : writeItems charset level vs =
    vs.flatMap fun v ↦ .char ',' :: (newLine level ++ write charset level v) := by
  induction vs with
  | nil => rfl
  | cons v vs ih =>
    rw [writeItems, ih, List.flatMap_cons]
    rfl

theorem writeMembers_eq_flatMap (level : ℕ) (ms : List (Text × Value)) :
    writeMembers charset level ms = ms.flatMap fun m ↦ .char ',' :: (newLine level ++
      writeString charset m.1 ++ Text.ofString ": " ++ write charset level m.2) := by
  induction ms with
  | nil => rfl
  | cons m ms ih =>
    rw [writeMembers, ih, List.flatMap_cons]
    rfl

theorem length_le_flatMap {α : Type} (f : α → Text) (c : CodePoint) (l : List α) :
    l.length ≤ (l.flatMap fun a ↦ c :: f a).length ∧
      ∀ a ∈ l, (f a).length ≤ (l.flatMap fun a ↦ c :: f a).length := by
  induction l with
  | nil => exact ⟨Nat.le_refl 0, fun a ha ↦ nomatch ha⟩
  | cons b l ih =>
    obtain ⟨hcount, hitem⟩ := ih
    simp only [List.flatMap_cons, List.cons_append, List.length_cons, List.length_append]
    refine ⟨by omega, fun a ha ↦ ?_⟩
    rcases List.mem_cons.mp ha with rfl | ha
    · omega
    · have := hitem a ha
      omega

theorem length_lt_of_array {level bound : ℕ} {v : Value} {vs : List Value}
    (h : (write charset level (.array (v :: vs))).length < bound) :
    vs.length < bound ∧ ∀ w ∈ v :: vs, (write charset (level + 1) w).length < bound := by
  rw [write_array_cons, writeItems_eq_flatMap] at h
  obtain ⟨hcount, hitem⟩ := length_le_flatMap
    (fun v ↦ newLine (level + 1) ++ write charset (level + 1) v) (.char ',') vs
  simp only [List.length_append] at h hitem
  refine ⟨by omega, fun w hw ↦ ?_⟩
  rcases List.mem_cons.mp hw with rfl | hw
  · omega
  · have := hitem w hw
    omega

theorem length_lt_of_object {level bound : ℕ} {m : Text × Value} {ms : List (Text × Value)}
    (h : (write charset level (.object (m :: ms))).length < bound) :
    ms.length < bound ∧ ∀ n ∈ m :: ms, (write charset (level + 1) n.2).length < bound := by
  rw [write_object_cons, writeFrom, writeMembers_eq_flatMap] at h
  obtain ⟨hcount, hitem⟩ := length_le_flatMap (fun m : Text × Value ↦ newLine (level + 1) ++
    writeString charset m.1 ++ Text.ofString ": " ++ write charset (level + 1) m.2) (.char ',') ms
  simp only [List.length_append] at h hitem
  refine ⟨by omega, fun n hn ↦ ?_⟩
  rcases List.mem_cons.mp hn with rfl | hn
  · omega
  · have := hitem n hn
    omega

/-- The reader takes the text of a writable value, given room for all its items. -/
theorem reads_value {bound depth level : ℕ} {v : Value} (h : v.IsWritable charset depth)
    (hbound : (write charset level v).length < bound) {behind : Text} (hend : EndsNumber behind) :
    Reads (value bound depth) (write charset level v) v behind := by
  induction h generalizing level behind with
  | null => exact reads_value_of_scalar ⟨_, _, rfl, by decide⟩ (reads_null behind)
  | bool b =>
    cases b with
    | true => exact reads_value_of_scalar ⟨_, _, rfl, by decide⟩ (reads_true behind)
    | false => exact reads_value_of_scalar ⟨_, _, rfl, by decide⟩ (reads_false behind)
  | @integer _ n hn =>
    rw [write]
    refine reads_value_of_scalar ?_ (reads_integer hn hend)
    obtain ⟨d, r, hd, hw | hw⟩ := writeInteger_cases n
    · refine ⟨_, _, hw, ?_, ?_, ?_⟩ <;>
      · rintro h
        rw [CodePoint.char.inj h] at hd
        cases hd
    · exact ⟨_, _, hw, by decide⟩
  | string ht =>
    rw [write]
    exact reads_value_of_string ht behind
  | @array depth vs h ih =>
    cases vs with
    | nil =>
      refine .get fun place ↦ ?_
      refine .bind (reads_one (.char '[') _) ?_
      refine .behindNoGap (startsNoGap_cons rfl _) (.get fun place ↦ ?_)
      exact .bind (reads_one (.char ']') _) (.pure _ _)
    | cons v vs =>
      obtain ⟨hcount, hitem⟩ := length_lt_of_array hbound
      exact reads_array (fun w hw ↦ ⟨write_head (h w hw) _, fun b hb ↦ ih w hw (hitem w hw) hb⟩)
        hcount behind
  | @object depth ms hkeys hkeep h ih =>
    cases ms with
    | nil =>
      refine .get fun place ↦ ?_
      refine .bind (reads_one (.char '\x7b') _) ?_
      refine .behindNoGap (startsNoGap_cons rfl _) (.get fun place ↦ ?_)
      exact .bind (reads_one (.char '\x7d') _) (.pure _ _)
    | cons m ms =>
      obtain ⟨hcount, hitem⟩ := length_lt_of_object hbound
      exact reads_object hkeys hkeep
        (fun n hn ↦ ⟨write_head (h n hn) _, fun b hb ↦ ih n hn (hitem n hn) hb⟩) hcount behind

theorem reads_between_gaps {bound depth level : ℕ} {v : Value} (h : v.IsWritable charset depth)
    (hbound : (write charset level v).length < bound) :
    Reads (do skipGap; let v ← value bound depth; skipGap; return v) (write charset level v) v [] := by
  have hstart : StartsNoGap (write charset level v ++ []) := by
    obtain ⟨d, r, hd, hgap, -⟩ := write_head h level
    rw [hd]
    exact startsNoGap_cons hgap _
  have hend : StartsNoGap [] := fun c hc ↦ nomatch hc
  refine .behindNoGap hstart ?_
  rw [← List.append_nil (write charset level v)]
  exact .bind (reads_value h hbound fun c hc ↦ nomatch hc) (.behindNoGap hend (.pure _ _))

theorem parse_write {v : Value} (h : v.IsWritable charset depthLimit) :
    parse (write charset 0 v) = .ok v := by
  have hmark : ¬ (write charset 0 v).head? = some (CodePoint.ofNat 0xfeff) := by
    obtain ⟨c, r, hc, -, -, hmark⟩ := write_head h 0
    rw [hc]
    exact fun heq ↦ hmark (Option.some.inj heq)
  have hread := reads_between_gaps h (Nat.lt_succ_self (write charset 0 v).length) 0
  rw [List.append_nil] at hread
  have hwhole : (parse.whole (write charset 0 v)).run ⟨write charset 0 v, 0⟩ = _ := hread
  rw [parse, if_neg hmark]
  simp only [hwhole]
  rfl

end Values

end PackageAudit.Json
