import Mathlib.Tactic.SplitIfs
import PackageAudit.Proofs.Json.Grammar
import PackageAudit.Proofs.Text.CodePoint

namespace PackageAudit.Json

open Decimal (takeDigits takeExponent takeSign)

variable {s rest : Text} {c : CodePoint}

section Digits

variable {ds : List ℕ}

theorem isNumeral_of_digit? (h : digit? c ≠ none) : isNumeral c = true := by
  have hascii : ∀ n < 128, digit? (CodePoint.ofNat n) ≠ none →
      isNumeral (CodePoint.ofNat n) = true := by decide +kernel
  have hc : c.toNat < 128 := by
    by_contra hc
    refine h ?_
    rw [digit?, Decimal.Spelling.digit?, if_neg]
    simpa [CodePoint.isAscii] using hc
  rw [← CodePoint.ofNat_toNat c] at h ⊢
  exact hascii _ hc h

theorem takeDigits_of_not_startsDigit (h : ¬ StartsDigit s) (inside : Bool) :
    takeDigits .strict s inside = ([], s) := by
  cases s with
  | nil => rfl
  | cons c s =>
    have hc : Decimal.Spelling.strict.digit? c = none := by
      by_contra hc
      exact h ⟨c, rfl, hc⟩
    simp [takeDigits, hc]

theorem Digits.takeDigits_eq (h : Digits s ds rest) (inside : Bool) :
    takeDigits .strict s inside = (ds, rest) := by
  induction h generalizing inside with
  | stop h => exact takeDigits_of_not_startsDigit h inside
  | digit hc h ih =>
    have hc : Decimal.Spelling.strict.digit? _ = _ := hc
    simp [takeDigits, hc, ih]

theorem exists_digits (s : Text) : ∃ ds rest, Digits s ds rest := by
  induction s with
  | nil => exact ⟨[], [], .stop fun ⟨c, hc, _⟩ ↦ nomatch hc⟩
  | cons c s ih =>
    cases hc : digit? c with
    | none => exact ⟨[], c :: s, .stop fun ⟨d, hd, hsome⟩ ↦ hsome (Option.some.inj hd ▸ hc)⟩
    | some d =>
      obtain ⟨ds, rest, h⟩ := ih
      exact ⟨d :: ds, rest, .digit hc h⟩

theorem Digits.ne_nil (h : Digits s ds rest) (hs : StartsDigit s) : ds ≠ [] := by
  cases h with
  | stop hstop => exact absurd hs hstop
  | digit => exact List.cons_ne_nil _ _

theorem Digits.drop_eq (h : Digits s ds rest) : s.drop ds.length = rest := by
  induction h with
  | stop => rfl
  | digit hc h ih => exact ih

end Digits

section Parts

variable {negative : Bool} {ds : List ℕ} {e : Option ℤ}

theorem exists_minus (s : Text) : ∃ negative rest, Minus s negative rest := by
  by_cases hs : s.head? = some (.char '-')
  · obtain ⟨rest, rfl⟩ := List.head?_eq_some_iff.mp hs
    exact ⟨true, rest, .minus⟩
  · exact ⟨false, s, .none hs⟩

theorem Minus.eq_or (h : Minus s negative rest) : s = .char '-' :: rest ∨ s = rest := by
  cases h with
  | minus => exact .inl rfl
  | none h => exact .inr rfl

theorem Minus.takeMinus_eq (h : Minus s negative rest) :
    Numeral.takeMinus s = (negative, rest) := by
  cases h with
  | minus => rfl
  | none h =>
    unfold Numeral.takeMinus
    split
    · exact absurd rfl h
    · rfl

theorem exists_whole (hs : StartsDigit s) : ∃ ds rest, Whole s ds rest := by
  by_cases hzero : s.head? = some (.char '0')
  · obtain ⟨rest, rfl⟩ := List.head?_eq_some_iff.mp hzero
    exact ⟨[0], rest, .zero⟩
  · obtain ⟨ds, rest, h⟩ := exists_digits s
    exact ⟨ds, rest, .digits hzero hs h⟩

theorem Whole.wholeOf_eq (h : Whole s ds rest) : Numeral.wholeOf s = ds := by
  cases h with
  | zero => rfl
  | digits hs hstart h =>
    unfold Numeral.wholeOf
    split
    · exact absurd rfl hs
    · rw [h.takeDigits_eq]

theorem Whole.startsDigit (h : Whole s ds rest) : StartsDigit s := by
  cases h with
  | zero => exact ⟨_, rfl, by decide⟩
  | digits hs hstart h => exact hstart

theorem Whole.ne_nil (h : Whole s ds rest) : ds ≠ [] := by
  cases h with
  | zero => exact List.cons_ne_nil _ _
  | digits hs hstart h => exact h.ne_nil hstart

theorem Whole.drop_eq (h : Whole s ds rest) : s.drop ds.length = rest := by
  cases h with
  | zero => rfl
  | digits hs hstart h => exact h.drop_eq

theorem wholeOf_of_not_startsDigit (h : ¬ StartsDigit s) : Numeral.wholeOf s = [] := by
  unfold Numeral.wholeOf
  split
  · exact absurd ⟨.char '0', rfl, by decide⟩ h
  · rw [takeDigits_of_not_startsDigit h]

theorem exists_fraction (s : Text) : ∃ ds rest, Fraction s ds rest := by
  by_cases hs : ∃ r, s = .char '.' :: r ∧ StartsDigit r
  · obtain ⟨r, rfl, hr⟩ := hs
    obtain ⟨ds, rest, h⟩ := exists_digits r
    exact ⟨ds, rest, .digits hr h⟩
  · exact ⟨[], s, .none fun r hr hstart ↦ hs ⟨r, hr, hstart⟩⟩

theorem Fraction.fractionOf_eq (h : Fraction s ds rest) : Numeral.fractionOf s = ds := by
  cases h with
  | digits hstart h => rw [Numeral.fractionOf, h.takeDigits_eq]
  | none h =>
    unfold Numeral.fractionOf
    split
    · rw [takeDigits_of_not_startsDigit (h _ rfl)]
    · rfl

theorem Fraction.drop_eq (h : Fraction s ds rest) :
    (if ds.isEmpty then s else s.drop (ds.length + 1)) = rest := by
  cases h with
  | digits hstart h =>
    rw [if_neg (by simpa using h.ne_nil hstart), List.drop_succ_cons, h.drop_eq]
  | none h => rfl

theorem exists_sign (s : Text) : ∃ negative rest, Sign s negative rest := by
  by_cases hminus : s.head? = some (.char '-')
  · obtain ⟨rest, rfl⟩ := List.head?_eq_some_iff.mp hminus
    exact ⟨true, rest, .minus⟩
  by_cases hplus : s.head? = some (.char '+')
  · obtain ⟨rest, rfl⟩ := List.head?_eq_some_iff.mp hplus
    exact ⟨false, rest, .plus⟩
  · exact ⟨false, s, .none hminus hplus⟩

theorem Sign.takeSign_eq (h : Sign s negative rest) : takeSign s = (negative, rest) := by
  cases h with
  | minus => rfl
  | plus => rfl
  | none hminus hplus =>
    unfold takeSign
    split
    · exact absurd rfl hminus
    · exact absurd rfl hplus
    · rfl

theorem exists_exponent (s : Text) : ∃ e rest, Exponent s e rest := by
  by_cases hs : ∃ mark r negative r', s = mark :: r ∧ (mark = .char 'e' ∨ mark = .char 'E') ∧
      Sign r negative r' ∧ StartsDigit r'
  · obtain ⟨mark, r, negative, r', rfl, hmark, hsign, hstart⟩ := hs
    obtain ⟨ds, rest, h⟩ := exists_digits r'
    exact ⟨_, rest, .digits hmark hsign hstart h⟩
  · exact ⟨none, s, .none fun mark r negative r' hr hmark hsign hstart ↦
      hs ⟨mark, r, negative, r', hr, hmark, hsign, hstart⟩⟩

theorem Exponent.takeExponent_eq (h : Exponent s e rest) : takeExponent .strict s = (e, rest) := by
  cases h with
  | digits hmark hsign hstart h =>
    rw [takeExponent, if_pos (by simpa using hmark), hsign.takeSign_eq]
    simp only [h.takeDigits_eq]
    split
    · rename_i heq
      exact absurd (congrArg Prod.fst heq) (h.ne_nil hstart)
    · rename_i heq
      obtain ⟨rfl, rfl⟩ := Prod.mk.inj heq
      rfl
  | none h =>
    cases s with
    | nil => rfl
    | cons mark r =>
      rw [takeExponent]
      split
      · rename_i hmark
        obtain ⟨negative, r', hsign⟩ := exists_sign r
        have hstart := h mark r negative r' rfl (by simpa using hmark) hsign
        rw [hsign.takeSign_eq]
        simp only [takeDigits_of_not_startsDigit hstart]
      · rfl

theorem Numeral.Starts.ofText_eq {n : Numeral} (h : n.Starts s) : Numeral.ofText s = n := by
  obtain ⟨body, behind, behind', hminus, hwhole, hfraction, hexponent⟩ := h
  simp only [Numeral.ofText, hminus.takeMinus_eq, hwhole.wholeOf_eq, hwhole.drop_eq,
    hfraction.fractionOf_eq, hfraction.drop_eq, hexponent.takeExponent_eq]

theorem exists_starts (hminus : Minus s negative rest) (hstart : StartsDigit rest) :
    ∃ n : Numeral, n.Starts s := by
  obtain ⟨whole, behind, hwhole⟩ := exists_whole hstart
  obtain ⟨fraction, behind', hfraction⟩ := exists_fraction behind
  obtain ⟨e, rest', hexponent⟩ := exists_exponent behind'
  exact ⟨⟨negative, whole, fraction, e, rest'⟩, _, behind, behind', hminus, hwhole, hfraction,
    hexponent⟩

end Parts

section Runs

variable {negative : Bool} {ds : List ℕ} {e : Option ℤ}

def numerals (s : Text) : Text := s.takeWhile isNumeral

theorem numerals_cons (hc : isNumeral c = true) (s : Text) : numerals (c :: s) = c :: numerals s := by
  rw [numerals, List.takeWhile_cons_of_pos hc, numerals]

theorem numerals_eq_cons_iff (hc : isNumeral c = true) {r : Text} :
    numerals s = c :: r ↔ ∃ r', s = c :: r' ∧ r = numerals r' := by
  constructor
  · intro h
    cases s with
    | nil => cases h
    | cons d s =>
      by_cases hd : isNumeral d = true
      · rw [numerals_cons hd] at h
        obtain ⟨rfl, rfl⟩ := List.cons.inj h
        exact ⟨s, rfl, rfl⟩
      · rw [numerals, List.takeWhile_cons_of_neg hd] at h
        cases h
  · rintro ⟨r', rfl, rfl⟩
    exact numerals_cons hc r'

theorem head?_numerals_eq_some_iff (hc : isNumeral c = true) :
    (numerals s).head? = some c ↔ s.head? = some c := by
  rw [List.head?_eq_some_iff, List.head?_eq_some_iff]
  simp only [numerals_eq_cons_iff hc, exists_comm (α := Text), exists_eq_right]

theorem startsDigit_numerals_iff : StartsDigit (numerals s) ↔ StartsDigit s := by
  constructor
  · rintro ⟨c, hc, hdigit⟩
    exact ⟨c, (head?_numerals_eq_some_iff (isNumeral_of_digit? hdigit)).mp hc, hdigit⟩
  · rintro ⟨c, hc, hdigit⟩
    exact ⟨c, (head?_numerals_eq_some_iff (isNumeral_of_digit? hdigit)).mpr hc, hdigit⟩

def Spans (s rest : Text) : Prop := ∃ t, s = t ++ rest ∧ ∀ c ∈ t, isNumeral c = true

theorem Spans.refl (s : Text) : Spans s s := ⟨[], rfl, fun _ hc ↦ nomatch hc⟩

theorem Spans.cons (hc : isNumeral c = true) (h : Spans s rest) : Spans (c :: s) rest := by
  obtain ⟨t, rfl, ht⟩ := h
  exact ⟨c :: t, rfl, List.forall_mem_cons.mpr ⟨hc, ht⟩⟩

theorem Spans.trans {s' : Text} (h : Spans s s') (h' : Spans s' rest) : Spans s rest := by
  obtain ⟨t, rfl, ht⟩ := h
  obtain ⟨t', rfl, ht'⟩ := h'
  exact ⟨t ++ t', (List.append_assoc t t' rest).symm, List.forall_mem_append.mpr ⟨ht, ht'⟩⟩

theorem Spans.drop_eq (h : Spans s rest) :
    s.drop ((numerals s).length - (numerals rest).length) = rest := by
  obtain ⟨t, rfl, ht⟩ := h
  have hrun : numerals (t ++ rest) = t ++ numerals rest := List.takeWhile_append_of_pos ht
  rw [hrun, List.length_append, Nat.add_sub_cancel]
  exact List.drop_left' rfl

theorem Digits.spans (h : Digits s ds rest) : Spans s rest := by
  induction h with
  | stop h => exact .refl _
  | digit hc h ih => exact .cons (isNumeral_of_digit? (by simp [hc])) ih

theorem Digits.numerals (h : Digits s ds rest) : Digits (numerals s) ds (numerals rest) := by
  induction h with
  | stop h => exact .stop (startsDigit_numerals_iff.not.mpr h)
  | digit hc h ih =>
    rw [numerals_cons (isNumeral_of_digit? (by simp [hc]))]
    exact .digit hc ih

theorem Minus.spans (h : Minus s negative rest) : Spans s rest := by
  cases h with
  | minus => exact .cons rfl (.refl _)
  | none h => exact .refl _

theorem Minus.numerals (h : Minus s negative rest) :
    Minus (numerals s) negative (numerals rest) := by
  cases h with
  | minus => exact .minus
  | none h => exact .none ((head?_numerals_eq_some_iff rfl).not.mpr h)

theorem Whole.spans (h : Whole s ds rest) : Spans s rest := by
  cases h with
  | zero => exact .cons rfl (.refl _)
  | digits hs hstart h => exact h.spans

theorem Whole.numerals (h : Whole s ds rest) : Whole (numerals s) ds (numerals rest) := by
  cases h with
  | zero => exact .zero
  | digits hs hstart h =>
    exact .digits ((head?_numerals_eq_some_iff rfl).not.mpr hs) (startsDigit_numerals_iff.mpr hstart)
      h.numerals

theorem Fraction.spans (h : Fraction s ds rest) : Spans s rest := by
  cases h with
  | digits hstart h => exact .cons rfl h.spans
  | none h => exact .refl _

theorem Fraction.numerals (h : Fraction s ds rest) : Fraction (numerals s) ds (numerals rest) := by
  cases h with
  | digits hstart h => exact .digits (startsDigit_numerals_iff.mpr hstart) h.numerals
  | none h =>
    refine .none fun r hr ↦ ?_
    obtain ⟨r', hr', rfl⟩ := (numerals_eq_cons_iff rfl).mp hr
    exact startsDigit_numerals_iff.not.mpr (h r' hr')

theorem Sign.spans (h : Sign s negative rest) : Spans s rest := by
  cases h with
  | minus => exact .cons rfl (.refl _)
  | plus => exact .cons rfl (.refl _)
  | none hminus hplus => exact .refl _

theorem Sign.numerals (h : Sign s negative rest) : Sign (numerals s) negative (numerals rest) := by
  cases h with
  | minus => exact .minus
  | plus => exact .plus
  | none hminus hplus =>
    exact .none ((head?_numerals_eq_some_iff rfl).not.mpr hminus)
      ((head?_numerals_eq_some_iff rfl).not.mpr hplus)

theorem Exponent.spans (h : Exponent s e rest) : Spans s rest := by
  cases h with
  | digits hmark hsign hstart h =>
    refine .cons ?_ (hsign.spans.trans h.spans)
    rcases hmark with rfl | rfl <;> rfl
  | none h => exact .refl _

theorem Exponent.numerals (h : Exponent s e rest) : Exponent (numerals s) e (numerals rest) := by
  cases h with
  | digits hmark hsign hstart h =>
    rw [numerals_cons (by rcases hmark with rfl | rfl <;> rfl)]
    exact .digits hmark hsign.numerals (startsDigit_numerals_iff.mpr hstart) h.numerals
  | none h =>
    refine .none fun mark r negative r' hr hmark hsign ↦ ?_
    obtain ⟨r, hs, rfl⟩ := (numerals_eq_cons_iff (by rcases hmark with rfl | rfl <;> rfl)).mp hr
    obtain ⟨negative', r'', hsign'⟩ := exists_sign r
    have heq := hsign.takeSign_eq.symm.trans hsign'.numerals.takeSign_eq
    obtain ⟨-, rfl⟩ := Prod.mk.inj heq
    exact startsDigit_numerals_iff.not.mpr (h mark r negative' r'' hs hmark hsign')

theorem Numeral.Starts.spans {n : Numeral} (h : n.Starts s) : Spans s n.rest := by
  obtain ⟨body, behind, behind', hminus, hwhole, hfraction, hexponent⟩ := h
  exact hminus.spans.trans (hwhole.spans.trans (hfraction.spans.trans hexponent.spans))

theorem Numeral.Starts.numerals {n : Numeral} (h : n.Starts s) :
    Numeral.Starts { n with rest := numerals n.rest } (numerals s) := by
  obtain ⟨body, behind, behind', hminus, hwhole, hfraction, hexponent⟩ := h
  exact ⟨_, _, _, hminus.numerals, hwhole.numerals, hfraction.numerals, hexponent.numerals⟩

end Runs

section Reader

variable {n : Numeral}

theorem run_number (s : Text) (place : ℕ) : number.run ⟨s, place⟩ =
    if (Numeral.ofText (numerals s)).whole.isEmpty then .error (.malformed .value place)
    else (Numeral.ofText (numerals s)).value.map fun v ↦
      (v, ⟨s.drop ((numerals s).length - (Numeral.ofText (numerals s)).rest.length),
        place + ((numerals s).length - (Numeral.ofText (numerals s)).rest.length)⟩) := by
  have hrun : number.run ⟨s, place⟩ =
      (if (Numeral.ofText (numerals s)).whole.isEmpty then fail .value place else do
        advance ((numerals s).length - (Numeral.ofText (numerals s)).rest.length)
        (Numeral.ofText (numerals s)).value : Reader Value).run ⟨s, place⟩ := rfl
  rw [hrun]
  split
  · rfl
  · cases hv : (Numeral.ofText (numerals s)).value <;> rfl

theorem Numeral.Starts.run_number_eq (h : n.Starts s) (place : ℕ) :
    ∃ place', number.run ⟨s, place⟩ = n.value.map (·, ⟨n.rest, place'⟩) := by
  have hwhole : n.whole.isEmpty = false := by
    obtain ⟨_, _, _, -, hwhole, -, -⟩ := h
    simpa using hwhole.ne_nil
  refine ⟨place + ((Json.numerals s).length - (Json.numerals n.rest).length), ?_⟩
  rw [run_number, h.numerals.ofText_eq]
  dsimp only
  rw [hwhole, if_neg Bool.false_ne_true, h.spans.drop_eq]
  rfl

theorem run_number_of_not_startsDigit {negative : Bool} (hminus : Minus s negative rest)
    (hstart : ¬ StartsDigit rest) (place : ℕ) :
    number.run ⟨s, place⟩ = .error (.malformed .value place) := by
  have hwhole : (Numeral.ofText (numerals s)).whole = [] := by
    rw [Numeral.ofText, hminus.numerals.takeMinus_eq]
    exact wholeOf_of_not_startsDigit (startsDigit_numerals_iff.not.mpr hstart)
  rw [run_number, hwhole, List.isEmpty_nil, if_pos rfl]

theorem Numeral.value_eq_error_iff {e : ReadError} :
    n.value = .error e ↔ n.IsLong ∧ e = .longInteger := by
  rw [Numeral.value, Numeral.IsLong]
  split_ifs with hinteger hlimit <;>
    simp only [Bool.and_eq_true, List.isEmpty_iff, Option.isNone_iff_eq_none] at hinteger
  · simp [hinteger, hlimit, eq_comm]
  · simp [hlimit]
  · simp [← and_assoc, hinteger]

end Reader

end PackageAudit.Json
