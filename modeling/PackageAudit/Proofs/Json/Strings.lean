import Mathlib.Data.List.Chain
import PackageAudit.Json.Parser
import PackageAudit.Json.Printer
import PackageAudit.Proofs.Text.CodePoint

namespace PackageAudit.Json

section Hexadecimal

theorem hexValue?_hexDigit (n : ℕ) : hexValue? (Text.hexDigit n) = some (n % 16) := by
  have hall : ∀ k < 16, hexValue? (CodePoint.ofNat (if k < 10 then 0x30 + k else 0x57 + k)) =
      some k := by decide
  exact hall (n % 16) (Nat.mod_lt n (by decide))

theorem length_hexadecimal (width n : ℕ) : (Text.hexadecimal width n).length = width := by
  induction width generalizing n with
  | zero => rfl
  | succ width ih => rw [Text.hexadecimal, List.length_append, ih, List.length_singleton]

theorem fourHex?_hexadecimal {n : ℕ} (h : n < 0x10000) (rest : Text) :
    fourHex? (Text.hexadecimal 4 n ++ rest) = some n := by
  have hn : 4096 * (n / 16 / 16 / 16 % 16) + 256 * (n / 16 / 16 % 16) + 16 * (n / 16 % 16) +
      n % 16 = n := by omega
  simp [Text.hexadecimal, fourHex?, hexValue?_hexDigit, hn]

theorem unicodeEscape?_hexadecimal {n : ℕ} (h : n < 0x10000) {rest : Text} (hrest : rest ≠ []) :
    unicodeEscape? (Text.hexadecimal 4 n ++ rest) = some n := by
  have hdrop : (Text.hexadecimal 4 n ++ rest).drop 4 = rest :=
    List.drop_left' (length_hexadecimal 4 n)
  rw [unicodeEscape?, hdrop, fourHex?_hexadecimal h, if_neg (by simpa using hrest)]

end Hexadecimal

section Escapes

def StandsFor (piece : Text) (c : CodePoint) (behind : Text) : Prop :=
  ∀ start place, stringFrom start (piece ++ behind) place 0 = do
    let (t, cursor) ← stringFrom start behind (place + piece.length) 0
    return (c :: t, cursor)

theorem stringFrom_inside (start : ℕ) (t behind : Text) (place : ℕ) :
    stringFrom start (t ++ behind) place t.length = stringFrom start behind (place + t.length) 0 := by
  induction t generalizing place with
  | nil => rfl
  | cons c t ih =>
    rw [List.cons_append, List.length_cons, stringFrom, ih, Nat.add_right_comm, Nat.add_assoc]

theorem StandsFor.of_escape {e behind : Text} {c : CodePoint}
    (h : escape (e ++ behind) = .ok (c, e.length)) :
    StandsFor (.char '\\' :: e) c behind := by
  intro start place
  have hskip := stringFrom_inside start e behind (place + 1)
  rw [List.cons_append, stringFrom, h]
  simp only [hskip, List.length_cons]
  rw [Nat.add_assoc, Nat.add_comm 1]

theorem StandsFor.self {c : CodePoint} (hquote : c ≠ .char '"') (hbackslash : c ≠ .char '\\')
    (hc : 32 ≤ c.toNat) (behind : Text) : StandsFor [c] c behind := by
  intro start place
  rw [List.singleton_append, stringFrom.eq_5 start place c behind hquote hbackslash,
    if_neg (by omega)]
  rfl

theorem StandsFor.simple {e c : CodePoint} (he : e ≠ .char 'u') (h : simpleEscape? e = some c)
    (behind : Text) : StandsFor [.char '\\', e] c behind := by
  apply StandsFor.of_escape (e := [e])
  rw [List.singleton_append, escape.eq_3 e behind he, h]
  rfl

def unit (n : ℕ) : Text := .char '\\' :: .char 'u' :: Text.hexadecimal 4 n

theorem escape_unit {n : ℕ} (h : n < 0x10000) {behind : Text} (hbehind : behind ≠ [])
    (hsingle : ¬ (0xD800 ≤ n ∧ n < 0xDC00) ∨
      ∀ r, behind ≠ .char '\\' :: .char 'u' :: r) :
    escape (.char 'u' :: (Text.hexadecimal 4 n ++ behind)) = .ok (CodePoint.ofNat n, 5) := by
  have hdrop : (Text.hexadecimal 4 n ++ behind).drop 4 = behind :=
    List.drop_left' (length_hexadecimal 4 n)
  rw [escape, unicodeEscape?_hexadecimal h hbehind]
  dsimp only
  rw [hdrop]
  split
  · rename_i hhigh
    rw [Bool.and_eq_true, decide_eq_true_eq, decide_eq_true_eq] at hhigh
    rcases hsingle with hsingle | hsingle
    · exact absurd hhigh hsingle
    · exact absurd rfl (hsingle _)
  · rfl

theorem escape_unit_unit {n m : ℕ} (hn : n < 0x10000) (hm : m < 0x10000)
    (hhigh : 0xD800 ≤ n ∧ n < 0xDC00) {behind : Text} (hbehind : behind ≠ []) :
    escape (.char 'u' :: (Text.hexadecimal 4 n ++ (unit m ++ behind))) =
      .ok (((joinPair? n m).map fun c ↦ (c, 11)).getD (CodePoint.ofNat n, 5)) := by
  have hdrop : (Text.hexadecimal 4 n ++ (unit m ++ behind)).drop 4 = unit m ++ behind :=
    List.drop_left' (length_hexadecimal 4 n)
  have hdrop' : (Text.hexadecimal 4 m ++ behind).drop 4 = behind :=
    List.drop_left' (length_hexadecimal 4 m)
  have hdecide : (decide (0xD800 ≤ n) && decide (n < 0xDC00)) = true := by simp [hhigh]
  have hne : unit m ++ behind ≠ [] := List.cons_ne_nil _ _
  rw [escape, unicodeEscape?_hexadecimal hn hne]
  dsimp only
  rw [hdrop, hdecide, unit, List.cons_append, List.cons_append]
  simp only [hdrop', List.isEmpty_iff, if_neg hbehind, fourHex?_hexadecimal hm]
  cases joinPair? n m <;> rfl

theorem escapeMark_append (t : Text) :
    Text.ofString "\\u" ++ t = .char '\\' :: .char 'u' :: t := rfl

theorem utf16Escapes_of_lt {n : ℕ} (h : n < 0x10000) : utf16Escapes n = unit n := by
  rw [utf16Escapes, if_pos h, escapeMark_append, unit]

theorem utf16Escapes_of_le {n : ℕ} (h : 0x10000 ≤ n) :
    utf16Escapes n =
      unit (0xD800 + (n - 0x10000) / 1024) ++ unit (0xDC00 + (n - 0x10000) % 1024) := by
  rw [utf16Escapes, if_neg (by omega), escapeMark_append, unit, unit, List.append_assoc,
    escapeMark_append, List.cons_append, List.cons_append]

def StartsNoLow (behind : Text) : Prop :=
  (∀ r, behind ≠ .char '\\' :: .char 'u' :: r) ∨
    ∃ m rest, behind = unit m ++ rest ∧ rest ≠ [] ∧ m < 0xDC00 ∨
      behind = unit m ++ rest ∧ rest ≠ [] ∧ 0xE000 ≤ m ∧ m < 0x10000

theorem joinPair?_eq_none {n m : ℕ} (h : m < 0xDC00 ∨ 0xE000 ≤ m) : joinPair? n m = none := by
  have hlow : (decide (0xDC00 ≤ m) && decide (m < 0xE000)) = false := by
    rw [Bool.and_eq_false_iff, decide_eq_false_iff_not, decide_eq_false_iff_not]
    omega
  rw [joinPair?, hlow]
  rfl

theorem standsFor_unit (c : CodePoint) (hc : c.toNat < 0x10000) {behind : Text}
    (hbehind : behind ≠ []) (hnext : c.IsHigh → StartsNoLow behind) :
    StandsFor (unit c.toNat) c behind := by
  apply StandsFor.of_escape
  have hlength : (CodePoint.char 'u' :: Text.hexadecimal 4 c.toNat).length = 5 := by
    rw [List.length_cons, length_hexadecimal]
  rw [hlength, List.cons_append]
  by_cases hhigh : c.IsHigh
  · rcases hnext hhigh with hplain | ⟨m, rest, ⟨rfl, hrest, hm⟩ | ⟨rfl, hrest, hm, hm'⟩⟩
    · rw [escape_unit hc hbehind (.inr hplain), CodePoint.ofNat_toNat]
    · rw [escape_unit_unit hc (by omega) hhigh hrest, joinPair?_eq_none (.inl hm),
        CodePoint.ofNat_toNat]
      rfl
    · rw [escape_unit_unit hc hm' hhigh hrest, joinPair?_eq_none (.inr hm),
        CodePoint.ofNat_toNat]
      rfl
  · rw [escape_unit hc hbehind (.inl hhigh), CodePoint.ofNat_toNat]

theorem standsFor_pair (c : CodePoint) (hc : 0x10000 ≤ c.toNat) {behind : Text}
    (hbehind : behind ≠ []) : StandsFor (utf16Escapes c.toNat) c behind := by
  have hlt := c.toNat_lt
  rw [utf16Escapes_of_le hc, unit, List.cons_append]
  apply StandsFor.of_escape
  have hjoin : joinPair? (0xD800 + (c.toNat - 0x10000) / 1024)
      (0xDC00 + (c.toNat - 0x10000) % 1024) = some c := by
    have hsum : 0x10000 + 1024 * (0xD800 + (c.toNat - 0x10000) / 1024 - 0xD800) +
        (0xDC00 + (c.toNat - 0x10000) % 1024 - 0xDC00) = c.toNat := by omega
    rw [joinPair?, if_pos (by rw [Bool.and_eq_true, decide_eq_true_eq, decide_eq_true_eq]; omega),
      hsum, CodePoint.ofNat_toNat]
  have hescape := escape_unit_unit (n := 0xD800 + (c.toNat - 0x10000) / 1024)
    (m := 0xDC00 + (c.toNat - 0x10000) % 1024) (by omega) (by omega) (by omega) hbehind
  rw [hjoin] at hescape
  rw [List.append_assoc, List.cons_append, hescape]
  simp [unit, length_hexadecimal]

end Escapes

section Strings

/-- Which texts a charset writes so that they read back: with escapes beyond ASCII, those that have
no high surrogate directly before a low one. -/
def Charset.Keeps : Charset → Text → Prop
  | .all, _ => True
  | .ascii, t => t.IsChain fun c d ↦ ¬ (c.IsHigh ∧ d.IsLow)

instance : (charset : Charset) → DecidablePred charset.Keeps
  | .all, _ => inferInstanceAs (Decidable True)
  | .ascii, t => inferInstanceAs (Decidable (t.IsChain fun c d ↦ ¬ (c.IsHigh ∧ d.IsLow)))

theorem Charset.Keeps.tail {charset : Charset} {c : CodePoint} {t : Text}
    (h : charset.Keeps (c :: t)) : charset.Keeps t := by
  cases charset with
  | ascii => exact List.IsChain.tail h
  | all => trivial

theorem standsFor_escapeCodePoint (charset : Charset) (c : CodePoint) {behind : Text}
    (hbehind : behind ≠ []) (hnext : charset = .ascii → c.IsHigh → StartsNoLow behind) :
    StandsFor (escapeCodePoint charset c) c behind := by
  have hchar {n : ℕ} {d : Char} (hc : c.toNat = n) (hd : d.toNat = n) : c = .char d :=
    CodePoint.toNat_injective (hc.trans hd.symm)
  unfold escapeCodePoint
  dsimp only
  split_ifs with hquote hbackslash hlf hcr htab hff hbs hescaped
  · obtain rfl := hchar (d := '"') hquote rfl
    exact .simple (by decide) rfl behind
  · obtain rfl := hchar (d := '\\') hbackslash rfl
    exact .simple (by decide) rfl behind
  · obtain rfl := hchar (d := '\n') hlf rfl
    exact .simple (by decide) rfl behind
  · obtain rfl := hchar (d := '\r') hcr rfl
    exact .simple (by decide) rfl behind
  · obtain rfl := hchar (d := '\t') htab rfl
    exact .simple (by decide) rfl behind
  · obtain rfl := hchar (d := '\x0c') hff rfl
    exact .simple (by decide) rfl behind
  · obtain rfl := hchar (d := '\x08') hbs rfl
    exact .simple (by decide) rfl behind
  · by_cases hc : c.toNat < 0x10000
    · rw [utf16Escapes_of_lt hc]
      refine standsFor_unit c hc hbehind fun hhigh ↦ hnext ?_ hhigh
      by_contra hall
      have hhigh' := hhigh.1
      simp [hall] at hescaped
      omega
    · exact standsFor_pair c (by omega) hbehind
  · refine .self ?_ ?_ ?_ behind
    · rintro rfl
      exact hquote rfl
    · rintro rfl
      exact hbackslash rfl
    · simp only [Bool.or_eq_true, decide_eq_true_eq, not_or] at hescaped
      omega

theorem startsNoLow_written {t : Text} (ht : ∀ c ∈ t.head?, ¬ c.IsLow) (rest : Text) :
    StartsNoLow (t.flatMap (escapeCodePoint .ascii) ++ .char '"' :: rest) := by
  cases t with
  | nil => exact .inl fun r ↦ by simp
  | cons c t =>
    have hc : ¬ c.IsLow := ht c rfl
    rw [List.flatMap_cons, List.append_assoc]
    have hne : t.flatMap (escapeCodePoint .ascii) ++ CodePoint.char '"' :: rest ≠ [] := by simp
    generalize t.flatMap (escapeCodePoint .ascii) ++ CodePoint.char '"' :: rest = behind at hne
    have hsimple {e : Char} (he : e ≠ 'u') :
        StartsNoLow (CodePoint.char '\\' :: CodePoint.char e :: behind) :=
      .inl fun r hr ↦ he (CodePoint.char.inj (List.cons.inj (List.cons.inj hr).2).1)
    unfold escapeCodePoint
    dsimp only
    split_ifs with hquote hbackslash hlf hcr htab hff hbs hescaped
    · exact hsimple (e := '"') (by decide)
    · exact hsimple (e := '\\') (by decide)
    · exact hsimple (e := 'n') (by decide)
    · exact hsimple (e := 'r') (by decide)
    · exact hsimple (e := 't') (by decide)
    · exact hsimple (e := 'f') (by decide)
    · exact hsimple (e := 'b') (by decide)
    · have hlt := c.toNat_lt
      simp only [CodePoint.IsLow, not_and_or, Nat.not_le, Nat.not_lt] at hc
      by_cases hn : c.toNat < 0x10000
      · rw [utf16Escapes_of_lt hn]
        rcases hc with hc | hc
        · exact .inr ⟨_, behind, .inl ⟨rfl, hne, hc⟩⟩
        · exact .inr ⟨_, behind, .inr ⟨rfl, hne, hc, hn⟩⟩
      · rw [utf16Escapes_of_le (by omega), List.append_assoc]
        exact .inr ⟨_, _, .inl ⟨rfl, by simp [unit], by omega⟩⟩
    · refine .inl fun r hr ↦ hbackslash ?_
      have hhead : c = .char '\\' := by simpa using congrArg List.head? hr
      rw [hhead]
      rfl

theorem stringFrom_written {charset : Charset} {t : Text} (h : charset.Keeps t) (rest : Text)
    (start place : ℕ) :
    stringFrom start (t.flatMap (escapeCodePoint charset) ++ .char '"' :: rest) place 0 =
      .ok (t, ⟨rest, place + (t.flatMap (escapeCodePoint charset)).length + 1⟩) := by
  induction t generalizing place with
  | nil => rfl
  | cons c t ih =>
    have hnext : charset = .ascii → c.IsHigh →
        StartsNoLow (t.flatMap (escapeCodePoint charset) ++ .char '"' :: rest) := by
      rintro rfl hhigh
      exact startsNoLow_written (fun d hd hlow ↦ (List.isChain_cons.mp h).1 d hd ⟨hhigh, hlow⟩) rest
    have hstands := standsFor_escapeCodePoint charset c (by simp) hnext start place
    rw [List.flatMap_cons, List.append_assoc, hstands, ih h.tail]
    simp only [List.length_append, Nat.add_assoc]
    rfl

end Strings

end PackageAudit.Json
