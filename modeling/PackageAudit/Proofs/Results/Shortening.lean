import PackageAudit.Proofs.Text.Words
import PackageAudit.Results.UsageOutline
import PackageAudit.Script.Rejection

namespace PackageAudit.Text

variable {limit : ℕ} {s t : Text}

section Preview

theorem preview_of_le (h : (oneLine t).length ≤ limit) : preview limit t = oneLine t :=
  if_neg (Nat.not_lt.mpr h)

theorem preview_of_lt (h : limit < (oneLine t).length) :
    preview limit t = (oneLine t).take limit ++ ofString "..." :=
  if_pos h

theorem length_preview_of_lt (h : limit < (oneLine t).length) :
    (preview limit t).length = limit + 3 := by
  rw [preview_of_lt h, List.length_append, List.length_take_of_le (Nat.le_of_lt h)]
  rfl

theorem length_preview_le (limit : ℕ) (t : Text) : (preview limit t).length ≤ limit + 3 := by
  rcases Nat.lt_or_ge limit (oneLine t).length with h | h
  · exact Nat.le_of_eq (length_preview_of_lt h)
  · rw [preview_of_le h]
    omega

theorem isLine_preview (limit : ℕ) (t : Text) : IsLine (preview limit t) := by
  rcases Nat.lt_or_ge limit (oneLine t).length with h | h
  · have hdots : IsLine (ofString "...") := isLine_of_forall (by decide)
    rw [preview_of_lt h]
    exact ((isLine_oneLine t).toIsSpaced.take limit).append hdots (by decide)
  · rw [preview_of_le h]
    exact isLine_oneLine t

theorem preview_preview (limit : ℕ) (t : Text) :
    preview limit (preview limit t) = preview limit t := by
  have hline : oneLine (preview limit t) = preview limit t :=
    oneLine_eq_self_iff.mpr (isLine_preview limit t)
  rcases Nat.lt_or_ge limit (oneLine t).length with h | h
  · have hlong : limit < (oneLine (preview limit t)).length := by
      rw [hline, length_preview_of_lt h]
      omega
    rw [preview_of_lt hlong, hline, preview_of_lt h,
      List.take_left' (List.length_take_of_le (Nat.le_of_lt h))]
  · rw [preview_of_le h] at hline ⊢
    exact (preview_of_le (hline.symm ▸ h)).trans hline

theorem preview_respaced (h : Respaced s t) : preview limit t = preview limit s := by
  rw [preview, preview, oneLine, oneLine, h.words_eq]

end Preview

end PackageAudit.Text

namespace PackageAudit.Results

open Script (Dialect Reason)
open Syntax (Node)
open Text (IsLine Respaced oneLine preview quoted)

/-- A shortened text is a line of bounded length that only the words of the text decide, and it is
its own shortening. It is what a rejection quotes of a node and what an outline shows of a call. -/
theorem shortened_text_isStable (limit : ℕ) (s : Text) :
    (preview limit s).length ≤ limit + 3 ∧
      IsLine (preview limit s) ∧
      (∀ t, Respaced s t → preview limit t = preview limit s) ∧
      oneLine s = [.char ' '].intercalate ((s.splitOnP (·.isSpace)).filter (!·.isEmpty)) ∧
      preview limit s =
        (if (oneLine s).length ≤ limit then oneLine s else (oneLine s).take limit ++ "...") ∧
      preview limit (preview limit s) = preview limit s ∧
      (∀ (d : Dialect) (source : Text) (n : Node), n.text source = s →
        (Reason.unexpected (n.text source)).message d =
          "Unexpected syntax near " ++ quoted (preview 40 s) ++ Reason.message.grammarNote d) ∧
      exampleLeaf (.string s) = .ok (leaf (.verbatim (preview 100 s))) := by
  refine ⟨Text.length_preview_le limit s, Text.isLine_preview limit s,
    fun t h ↦ Text.preview_respaced h, ?_, ?_, Text.preview_preview limit s, ?_, rfl⟩
  · rw [Text.oneLine_eq, Text.joinWith_eq, Text.words_eq]
  · split
    · rename_i h
      exact Text.preview_of_le h
    · rename_i h
      exact Text.preview_of_lt (Nat.lt_of_not_le h)
  · rintro d source n rfl
    rfl

theorem shortened_text_isStable_cutAtSpace :
    let s : Text := "ab \ncd"
    let t : Text := "\tab\u3000cd"
    let source : Text := "x(ab \ncd"
    let n : Node := .leaf .error true 2 8
    Respaced s t ∧ preview 3 t = "ab ..." ∧ preview 3 s = "ab ..." ∧
      preview 3 "ab ..." = "ab ..." ∧ n.text source = s ∧
      (Reason.unexpected (n.text source)).message .plain =
        "Unexpected syntax near " ++ quoted "ab cd" ++ Reason.message.grammarNote .plain := by
  intro s t source n
  obtain ⟨-, -, hrespaced, -, -, hagain, hquote, -⟩ := shortened_text_isStable 3 s
  have hbetween : Respaced s (Text.ofString "ab\u3000cd") :=
    .between (u := "ab") (v := "cd") (w := " \n") (x := "\u3000") (by decide) (by decide)
      (by decide) (by decide)
  have haround : Respaced (Text.ofString "ab\u3000cd") t :=
    .around (w := "\t") (x := "") (by decide) (by decide)
  have hst : Respaced s t := hbetween.trans haround
  have hcut : preview 3 s = "ab ..." := by decide
  have hwhole : preview 40 s = "ab cd" := by decide
  have htext : n.text source = s := by decide
  rw [hcut] at hagain
  rw [hwhole] at hquote
  exact ⟨hst, (hrespaced t hst).trans hcut, hcut, hagain, htext, hquote .plain source n htext⟩

end PackageAudit.Results
