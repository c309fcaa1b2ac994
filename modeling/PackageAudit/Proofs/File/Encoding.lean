import Mathlib.Data.Nat.Notation
import Mathlib.Tactic.SplitIfs
import PackageAudit.File.Encoding
import PackageAudit.Proofs.Lists

namespace PackageAudit.Encoding

variable {bs bytes rest : List UInt8} {b : UInt8} {c : Char} {cs : List Char} {n : ℕ}

def IsTail (b : UInt8) : Prop := 0x80 ≤ b.toNat ∧ b.toNat ≤ 0xBF

/-- The octets of a character and its number. No number is written with more octets than it needs,
and none of a surrogate or beyond the last character is written at all. -/
inductive Makes : List UInt8 → ℕ → Prop
  | one {a : UInt8} (ha : a.toNat < 0x80) : Makes [a] a.toNat
  | two {a b : UInt8} (ha : 0xC2 ≤ a.toNat ∧ a.toNat < 0xE0) (hb : IsTail b) :
      Makes [a, b] (64 * (a.toNat - 0xC0) + (b.toNat - 0x80))
  | three {a b c : UInt8} (ha : 0xE0 ≤ a.toNat ∧ a.toNat < 0xF0) (hb : IsTail b)
      (hleast : a.toNat = 0xE0 → 0xA0 ≤ b.toNat) (hmost : a.toNat = 0xED → b.toNat ≤ 0x9F)
      (hc : IsTail c) :
      Makes [a, b, c] (64 * (64 * (a.toNat - 0xE0) + (b.toNat - 0x80)) + (c.toNat - 0x80))
  | four {a b c d : UInt8} (ha : 0xF0 ≤ a.toNat ∧ a.toNat < 0xF5) (hb : IsTail b)
      (hleast : a.toNat = 0xF0 → 0x90 ≤ b.toNat) (hmost : a.toNat = 0xF4 → b.toNat ≤ 0x8F)
      (hc : IsTail c) (hd : IsTail d) :
      Makes [a, b, c, d] (64 * (64 * (64 * (a.toNat - 0xF0) + (b.toNat - 0x80)) +
        (c.toNat - 0x80)) + (d.toNat - 0x80))

section Characters

theorem toNat_ofNat {n : ℕ} (h : n < 256) : (UInt8.ofNat n).toNat = n := by
  rw [UInt8.toNat_ofNat']
  omega

theorem toNat_charOfNat (h : n.isValidChar) : (Char.ofNat n).toNat = n := by
  rw [Char.ofNat, dif_pos h]
  rfl

theorem Makes.isValidChar (h : Makes bs n) : n.isValidChar := by
  cases h with
  | one ha => exact .inl (by omega)
  | two ha hb =>
    obtain ⟨hb, hb'⟩ := hb
    exact .inl (by omega)
  | three ha hb hleast hmost hc =>
    obtain ⟨hb, hb'⟩ := hb
    obtain ⟨hc, hc'⟩ := hc
    rw [Nat.isValidChar]
    omega
  | four ha hb hleast hmost hc hd =>
    obtain ⟨hb, hb'⟩ := hb
    obtain ⟨hc, hc'⟩ := hc
    obtain ⟨hd, hd'⟩ := hd
    exact .inr (by omega)

theorem Makes.utf8EncodeChar_eq (h : Makes bs n) : String.utf8EncodeChar (Char.ofNat n) = bs := by
  have hnumber : (Char.ofNat n).val.toNat = n := toNat_charOfNat h.isValidChar
  have hoctet : ∀ {b : UInt8} {m : ℕ}, m = b.toNat → UInt8.ofNat m = b :=
    fun hm ↦ hm ▸ UInt8.ofNat_toNat
  rw [String.utf8EncodeChar]
  simp only [hnumber]
  cases h with
  | one ha => rw [if_pos (by omega), UInt8.ofNat_toNat]
  | two ha hb =>
    obtain ⟨hb, hb'⟩ := hb
    rw [if_neg (by omega), if_pos (by omega), List.cons.injEq, List.cons.injEq]
    exact ⟨hoctet (by omega), hoctet (by omega), rfl⟩
  | three ha hb hleast hmost hc =>
    obtain ⟨hb, hb'⟩ := hb
    obtain ⟨hc, hc'⟩ := hc
    rw [if_neg (by omega), if_neg (by omega), if_pos (by omega), List.cons.injEq, List.cons.injEq,
      List.cons.injEq]
    exact ⟨hoctet (by omega), hoctet (by omega), hoctet (by omega), rfl⟩
  | four ha hb hleast hmost hc hd =>
    obtain ⟨hb, hb'⟩ := hb
    obtain ⟨hc, hc'⟩ := hc
    obtain ⟨hd, hd'⟩ := hd
    rw [if_neg (by omega), if_neg (by omega), if_neg (by omega), List.cons.injEq, List.cons.injEq,
      List.cons.injEq, List.cons.injEq]
    exact ⟨hoctet (by omega), hoctet (by omega), hoctet (by omega), hoctet (by omega), rfl⟩

theorem makes_utf8EncodeChar (c : Char) : Makes (String.utf8EncodeChar c) c.toNat := by
  have hvalid : c.toNat.isValidChar := c.valid
  have hnumber : c.val.toNat = c.toNat := rfl
  have hoctet : ∀ {m : ℕ}, m < 256 → (UInt8.ofNat m).toNat = m := toNat_ofNat
  have hmake : ∀ {bs : List UInt8} {n : ℕ}, Makes bs n → n = c.toNat → Makes bs c.toNat :=
    fun hmakes hn ↦ hn ▸ hmakes
  rw [Nat.isValidChar] at hvalid
  rw [String.utf8EncodeChar]
  simp only [hnumber]
  split_ifs with hone htwo hthree
  · refine hmake (.one ?_) ?_ <;> rw [hoctet (by omega)]
    omega
  · have ha := hoctet (m := c.toNat / 64 % 32 + 192) (by omega)
    have hb := hoctet (m := c.toNat % 64 + 128) (by omega)
    refine hmake (.two (by omega) ⟨by omega, by omega⟩) (by omega)
  · have ha := hoctet (m := c.toNat / 4096 % 16 + 224) (by omega)
    have hb := hoctet (m := c.toNat / 64 % 64 + 128) (by omega)
    have hc := hoctet (m := c.toNat % 64 + 128) (by omega)
    exact hmake (.three (by omega) ⟨by omega, by omega⟩ (by omega) (by omega) ⟨by omega, by omega⟩)
      (by omega)
  · have ha := hoctet (m := c.toNat / 262144 % 8 + 240) (by omega)
    have hb := hoctet (m := c.toNat / 4096 % 64 + 128) (by omega)
    have hc := hoctet (m := c.toNat / 64 % 64 + 128) (by omega)
    have hd := hoctet (m := c.toNat % 64 + 128) (by omega)
    exact hmake (.four (by omega) ⟨by omega, by omega⟩ (by omega) (by omega) ⟨by omega, by omega⟩
      ⟨by omega, by omega⟩) (by omega)

end Characters

section Decoding

theorem decodeFrom_one (hb : b.toNat < 0x80) (rest : List UInt8) :
    decodeFrom none (b :: rest) = some (Char.ofNat b.toNat) :: decodeFrom none rest := by
  rw [decodeFrom]
  simp only [hb, if_true]

theorem decodeFrom_lead (hb : 0x80 ≤ b.toNat) (rest : List UInt8) :
    decodeFrom none (b :: rest) =
      match Pending.ofLead? b.toNat with
      | some p => decodeFrom (some p) rest
      | none => none :: decodeFrom none rest := by
  rw [decodeFrom]
  exact if_neg (Nat.not_lt.mpr hb)

theorem decodeFrom_next {value owed least most : ℕ} (hleast : least ≤ b.toNat)
    (hmost : b.toNat ≤ most) (rest : List UInt8) :
    decodeFrom (some ⟨value, owed, least, most⟩) (b :: rest) =
      if owed = 1 then some (Char.ofNat (64 * value + (b.toNat - 0x80))) :: decodeFrom none rest
      else decodeFrom (some ⟨64 * value + (b.toNat - 0x80), owed - 1, 0x80, 0xBF⟩) rest := by
  rw [decodeFrom]
  simp only [hleast, hmost, decide_true, Bool.and_self, if_true]

theorem exists_next {value owed least most : ℕ} {os : List (Option Char)}
    (h : decodeFrom (some ⟨value, owed, least, most⟩) bytes = some c :: os) :
    ∃ b rest, bytes = b :: rest ∧ least ≤ b.toNat ∧ b.toNat ≤ most := by
  cases bytes with
  | nil => cases h
  | cons b rest =>
    refine ⟨b, rest, rfl, ?_⟩
    rw [decodeFrom] at h
    simp only at h
    split at h
    · rename_i hb
      rwa [Bool.and_eq_true, decide_eq_true_eq, decide_eq_true_eq] at hb
    · cases h

theorem ofLead?_two (hb : 0xC2 ≤ b.toNat ∧ b.toNat < 0xE0) :
    Pending.ofLead? b.toNat = some ⟨b.toNat - 0xC0, 1, 0x80, 0xBF⟩ := by
  rw [Pending.ofLead?, if_neg (by omega), if_pos (by omega)]

theorem ofLead?_three (hb : 0xE0 ≤ b.toNat ∧ b.toNat < 0xF0) :
    Pending.ofLead? b.toNat = some ⟨b.toNat - 0xE0, 2, if b.toNat = 0xE0 then 0xA0 else 0x80,
      if b.toNat = 0xED then 0x9F else 0xBF⟩ := by
  rw [Pending.ofLead?, if_neg (by omega), if_neg (by omega), if_pos (by omega)]

theorem ofLead?_four (hb : 0xF0 ≤ b.toNat ∧ b.toNat < 0xF5) :
    Pending.ofLead? b.toNat = some ⟨b.toNat - 0xF0, 3, if b.toNat = 0xF0 then 0x90 else 0x80,
      if b.toNat = 0xF4 then 0x8F else 0xBF⟩ := by
  rw [Pending.ofLead?, if_neg (by omega), if_neg (by omega), if_neg (by omega), if_pos (by omega)]

theorem lead_cases (b : UInt8) : Pending.ofLead? b.toNat = none ∨
    (0xC2 ≤ b.toNat ∧ b.toNat < 0xE0) ∨ (0xE0 ≤ b.toNat ∧ b.toNat < 0xF0) ∨
      0xF0 ≤ b.toNat ∧ b.toNat < 0xF5 := by
  rw [Pending.ofLead?]
  split_ifs <;> first | exact .inl rfl | exact .inr (by omega)

theorem Makes.decodeFrom_append (h : Makes bs n) (rest : List UInt8) :
    decodeFrom none (bs ++ rest) = some (Char.ofNat n) :: decodeFrom none rest := by
  cases h with
  | one ha => exact decodeFrom_one ha rest
  | two ha hb =>
    rw [List.cons_append, decodeFrom_lead (by omega), ofLead?_two ha]
    exact decodeFrom_next hb.1 hb.2 rest
  | three ha hb hleast hmost hc =>
    obtain ⟨hb, hb'⟩ := hb
    rw [List.cons_append, decodeFrom_lead (by omega), ofLead?_three ha]
    dsimp only
    rw [List.cons_append, decodeFrom_next (by split <;> omega) (by split <;> omega)]
    exact decodeFrom_next hc.1 hc.2 rest
  | four ha hb hleast hmost hc hd =>
    obtain ⟨hb, hb'⟩ := hb
    rw [List.cons_append, decodeFrom_lead (by omega), ofLead?_four ha]
    dsimp only
    rw [List.cons_append, decodeFrom_next (by split <;> omega) (by split <;> omega),
      if_neg (by decide), List.cons_append, decodeFrom_next hc.1 hc.2]
    exact decodeFrom_next hd.1 hd.2 rest

theorem exists_makes {os : List (Option Char)} (h : decodeFrom none bytes = some c :: os) :
    ∃ bs n rest, bytes = bs ++ rest ∧ Makes bs n ∧ c = Char.ofNat n ∧ decodeFrom none rest = os := by
  suffices hmakes : ∃ bs n rest, bytes = bs ++ rest ∧ Makes bs n by
    obtain ⟨bs, n, rest, rfl, hbs⟩ := hmakes
    rw [hbs.decodeFrom_append, List.cons.injEq, Option.some.injEq] at h
    exact ⟨bs, n, rest, rfl, hbs, h.1.symm, h.2⟩
  cases bytes with
  | nil => cases h
  | cons a bytes =>
    by_cases ha : a.toNat < 0x80
    · exact ⟨[a], _, bytes, rfl, .one ha⟩
    rw [decodeFrom_lead (by omega)] at h
    rcases lead_cases a with hnone | htwo | hthree | hfour
    · rw [hnone] at h
      cases h
    · rw [ofLead?_two htwo] at h
      obtain ⟨b, rest, rfl, hb⟩ := exists_next h
      exact ⟨[a, b], _, rest, rfl, .two htwo hb⟩
    · rw [ofLead?_three hthree] at h
      dsimp only at h
      obtain ⟨b, rest, rfl, hleast, hmost⟩ := exists_next h
      rw [decodeFrom_next hleast hmost, if_neg (by decide)] at h
      obtain ⟨c, rest, rfl, hc⟩ := exists_next h
      refine ⟨[a, b, c], _, rest, rfl, .three hthree ⟨?_, ?_⟩ ?_ ?_ hc⟩ <;>
        split at hleast <;> split at hmost <;> omega
    · rw [ofLead?_four hfour] at h
      dsimp only at h
      obtain ⟨b, rest, rfl, hleast, hmost⟩ := exists_next h
      rw [decodeFrom_next hleast hmost, if_neg (by decide)] at h
      obtain ⟨c, rest, rfl, hc⟩ := exists_next h
      rw [decodeFrom_next hc.1 hc.2, if_neg (by decide)] at h
      obtain ⟨d, rest, rfl, hd⟩ := exists_next h
      refine ⟨[a, b, c, d], _, rest, rfl, .four hfour ⟨?_, ?_⟩ ?_ ?_ hc hd⟩ <;>
        split at hleast <;> split at hmost <;> omega

theorem decodeFrom_pending_ne_nil (p : Pending) : decodeFrom (some p) bytes ≠ [] := by
  induction bytes generalizing p with
  | nil => exact List.cons_ne_nil _ _
  | cons b bytes ih =>
    rw [decodeFrom]
    simp only
    split
    · split
      · exact List.cons_ne_nil _ _
      · exact ih _
    · exact List.cons_ne_nil _ _

theorem eq_nil_of_decodeFrom (h : decodeFrom none bytes = []) : bytes = [] := by
  cases bytes with
  | nil => rfl
  | cons a bytes =>
    by_cases ha : a.toNat < 0x80
    · rw [decodeFrom_one ha] at h
      cases h
    · rw [decodeFrom_lead (by omega)] at h
      split at h
      · exact absurd h (decodeFrom_pending_ne_nil _)
      · cases h

end Decoding

section Texts

theorem decodeFrom_encode_append (cs : List Char) (rest : List UInt8) :
    decodeFrom none (encode cs ++ rest) = cs.map some ++ decodeFrom none rest := by
  induction cs with
  | nil => rfl
  | cons c cs ih =>
    rw [encode, List.flatMap_cons, List.append_assoc, (makes_utf8EncodeChar c).decodeFrom_append,
      Char.ofNat_toNat, ← encode, ih, List.map_cons, List.cons_append]

/-- Octets are decoded to a text just if they are its encoding. -/
theorem decode?_eq_some_iff : decode? bytes = some cs ↔ bytes = encode cs := by
  rw [decode?, Lists.mapM_id_eq_some_iff]
  constructor
  · intro h
    induction cs generalizing bytes with
    | nil => exact eq_nil_of_decodeFrom h
    | cons c cs ih =>
      obtain ⟨bs, n, rest, rfl, hbs, rfl, hrest⟩ := exists_makes h
      rw [ih hrest, encode, encode, List.flatMap_cons, hbs.utf8EncodeChar_eq]
  · rintro rfl
    simpa [decodeFrom] using decodeFrom_encode_append cs []

end Texts

section Faults

def Pending.IsOpen (p : Pending) : Prop := 0x80 ≤ p.least ∧ p.most ≤ 0xBF

theorem Pending.isOpen_of_ofLead? {p : Pending} (h : ofLead? n = some p) : p.IsOpen := by
  rw [ofLead?] at h
  split_ifs at h <;> obtain rfl := Option.some.inj h <;>
    exact ⟨by dsimp only; omega, by dsimp only; omega⟩

theorem exists_head_encode (c : Char) (cs : List Char) :
    ∃ b rest, encode (c :: cs) = b :: rest ∧ ¬ IsTail b := by
  have hmakes := makes_utf8EncodeChar c
  rw [encode, List.flatMap_cons]
  generalize String.utf8EncodeChar c = bs at hmakes
  generalize c.toNat = n at hmakes
  cases hmakes <;> refine ⟨_, _, rfl, fun h ↦ ?_⟩ <;> obtain ⟨hleast, hmost⟩ := h <;> omega

theorem decodeFrom_stop {p : Pending} (hp : ¬ (p.least ≤ b.toNat ∧ b.toNat ≤ p.most))
    (rest : List UInt8) : decodeFrom (some p) (b :: rest) = none :: decodeFrom none (b :: rest) := by
  rw [decodeFrom, decodeFrom]
  simp only
  rw [if_neg]
  simpa using hp

theorem decodeFrom_append_encode {pending : Option Pending} (hopen : ∀ p ∈ pending, p.IsOpen)
    (bytes : List UInt8) (cs : List Char) :
    decodeFrom pending (bytes ++ encode cs) = decodeFrom pending bytes ++ cs.map some := by
  have hencode : decodeFrom none (encode cs) = cs.map some := by
    simpa [decodeFrom] using decodeFrom_encode_append cs []
  have hnone : ∀ p ∈ (none : Option Pending), p.IsOpen := fun p hp ↦ by cases hp
  induction bytes generalizing pending with
  | nil =>
    cases pending with
    | none => exact hencode
    | some p =>
      cases cs with
      | nil => rfl
      | cons c cs =>
        obtain ⟨hleast, hmost⟩ := hopen p rfl
        obtain ⟨b, rest, heq, hb⟩ := exists_head_encode c cs
        have hstop : ¬ (p.least ≤ b.toNat ∧ b.toNat ≤ p.most) :=
          fun h ↦ hb ⟨Nat.le_trans hleast h.1, Nat.le_trans h.2 hmost⟩
        rw [List.nil_append, heq, decodeFrom_stop hstop, ← heq, hencode]
        rfl
  | cons b bytes ih =>
    have hfresh : decodeFrom none (b :: bytes ++ encode cs) =
        decodeFrom none (b :: bytes) ++ cs.map some := by
      by_cases hb : b.toNat < 0x80
      · rw [List.cons_append, decodeFrom_one hb, decodeFrom_one hb, ih hnone]
        rfl
      · rw [List.cons_append, decodeFrom_lead (by omega), decodeFrom_lead (by omega)]
        cases hlead : Pending.ofLead? b.toNat with
        | none => exact congrArg (none :: ·) (ih hnone)
        | some p => exact ih fun q hq ↦ Option.some.inj hq ▸ Pending.isOpen_of_ofLead? hlead
    cases pending with
    | none => exact hfresh
    | some p =>
      by_cases hp : p.least ≤ b.toNat ∧ b.toNat ≤ p.most
      · rw [List.cons_append, decodeFrom_next hp.1 hp.2, decodeFrom_next hp.1 hp.2]
        split
        · rw [ih hnone, List.cons_append]
        · refine ih fun q hq ↦ ?_
          obtain rfl := Option.some.inj hq
          exact ⟨Nat.le_refl 0x80, Nat.le_refl 0xBF⟩
      · rw [List.cons_append, decodeFrom_stop hp, decodeFrom_stop hp, ← List.cons_append, hfresh]
        rfl

/-- Faults take nothing away from the texts around them. -/
theorem decodeReplacing_between (before behind : List Char) (bytes : List UInt8) :
    decodeReplacing (encode before ++ (bytes ++ encode behind)) =
      before ++ (decodeReplacing bytes ++ behind) := by
  have hnone : ∀ p ∈ (none : Option Pending), p.IsOpen := fun p hp ↦ by cases hp
  have hkeep : ∀ cs : List Char, (cs.map some).map (·.getD replacement) = cs := by
    intro cs
    rw [List.map_map]
    exact List.map_id cs
  rw [decodeReplacing, decodeFrom_encode_append, decodeFrom_append_encode hnone, List.map_append,
    List.map_append, hkeep, hkeep, decodeReplacing]

end Faults

end PackageAudit.Encoding
