import Mathlib.Data.Nat.Notation
import PackageAudit.Decimal.Format

namespace PackageAudit.Decimal

theorem digit?_strict_of_isDigit {c : Char} (h : c.isDigit = true) :
    Spelling.strict.digit? (.char c) = some (c.toNat - 48) := by
  obtain ⟨hlow, hhigh⟩ := Char.isDigit_iff_toNat.mp h
  have hlow' : 48 ≤ c.toNat := hlow
  have hhigh' : c.toNat ≤ 57 := hhigh
  have hascii : (CodePoint.char c).isAscii = true := decide_eq_true (by
    simp only [CodePoint.toNat]; omega)
  rw [Spelling.digit?, if_pos (by simp [hascii]), CodePoint.digit?]
  simp [CodePoint.toNat, hlow', hhigh']

theorem takeDigits_ofChars {cs : List Char} (hcs : ∀ c ∈ cs, c.isDigit = true) {rest : Text}
    (hrest : ∀ c ∈ rest.head?, Spelling.strict.digit? c = none) (inside : Bool) :
    takeDigits .strict (Text.ofChars cs ++ rest) inside = (cs.map (·.toNat - 48), rest) := by
  induction cs generalizing inside with
  | nil =>
    cases rest with
    | nil => rfl
    | cons c rest =>
      have hc := hrest c rfl
      simp [Text.ofChars, takeDigits, hc]
  | cons c cs ih =>
    have hc := digit?_strict_of_isDigit (hcs c List.mem_cons_self)
    have htail := ih (fun d hd ↦ hcs d (List.mem_cons_of_mem c hd)) true
    have hcons : Text.ofChars (c :: cs) ++ rest = .char c :: (Text.ofChars cs ++ rest) := rfl
    rw [hcons, takeDigits, hc]
    simp only [htail, List.map_cons]

theorem isDigit_of_mem_toDigits {n : ℕ} {c : Char} (h : c ∈ Nat.toDigits 10 n) :
    c.isDigit = true :=
  Nat.isDigit_of_mem_toDigits (by decide) (by decide) h

theorem ofDigits_toDigits (n : ℕ) : ofDigits ((Nat.toDigits 10 n).map (·.toNat - 48)) = n := by
  rw [ofDigits, List.foldl_map]
  exact Nat.ofDigitChars_toDigits (by decide) (by decide)

theorem toDigits_eq_zero_cons {n : ℕ} {cs : List Char} (h : Nat.toDigits 10 n = '0' :: cs) :
    n = 0 ∧ cs = [] := by
  induction n using Nat.strongRecOn generalizing cs with
  | ind n ih =>
    rw [Nat.toDigits_eq_if (by decide)] at h
    split at h
    · rename_i hn
      obtain ⟨hdigit, hcs⟩ := List.cons.inj h
      refine ⟨?_, hcs.symm⟩
      have hsmall : ∀ k < 10, Nat.digitChar k = '0' → k = 0 := by decide
      exact hsmall n hn hdigit
    · rename_i hn
      cases hd : Nat.toDigits 10 (n / 10) with
      | nil => exact absurd hd Nat.toDigits_ne_nil
      | cons c ds =>
        rw [hd, List.cons_append] at h
        obtain ⟨rfl, -⟩ := List.cons.inj h
        have hzero := (ih (n / 10) (by omega) hd).1
        omega

theorem ofNat_eq_ofChars (n : ℕ) : Text.ofNat n = Text.ofChars (Nat.toDigits 10 n) := by
  rw [Text.ofNat, Text.ofString, Nat.toString_eq_repr, Nat.toList_repr]
  rfl

end PackageAudit.Decimal
