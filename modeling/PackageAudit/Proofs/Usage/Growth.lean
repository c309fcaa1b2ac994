import Mathlib.Data.List.Flatten
import Mathlib.Tactic.NormNum
import PackageAudit.Proofs.Risk.Exact
import PackageAudit.Proofs.Usage.Accounting
import PackageAudit.Proofs.Usage.Rejections

namespace PackageAudit.Usage

open Risk (Exact)

section Parts

variable (cap : Int)

theorem recordOf_counts_atMost {shares more : List (Text × Evidence)} (h : shares.Sublist more)
    (hb : ∀ s ∈ more, s.2.IsBalanced) :
    (recordOf cap shares).counts.AtMost (recordOf cap more).counts := by
  have husages : (recordOf cap shares).usages.length ≤ (recordOf cap more).usages.length :=
    (h.flatMap _).length_le
  constructor
  case usages => exact husages
  case symbols => exact Distinct.length_eraseDups_le (h.flatMap _).subset
  case complexity =>
    -- Every call counts one, so that the complexity cannot fall where the calls do not.
    have hshares := recordOf_complexity_eq 0 fun s hs ↦ hb s (h.subset hs)
    have hmore := recordOf_complexity_eq 0 hb
    exact hshares.trans_le ((Int.ofNat_le.mpr husages).trans_eq hmore.symm)

theorem extractions_sublist (declared : List Text) {sources more : List Source}
    (h : sources.Sublist more) :
    (extractions declared sources).Sublist (extractions declared more) :=
  h.filterMap _

theorem shares_sublist {files more : List (Text × Extraction)} (h : files.Sublist more)
    (package : Text) : (shares files package).Sublist (shares more package) :=
  h.flatMap _

end Parts

section Unreadable

variable {α : Type} [Add α] [Mul α] [IntCast α] [LE α] [DecidableLE α] (config : Risk.Config α)
variable (cap : Int) (declared : List Text)

theorem packages_insert_of_not_isReadable (xs ys : List Source) {s : Source}
    (hs : isReadable s = false) :
    (analyze config cap declared (xs ++ s :: ys)).packages =
      (analyze config cap declared (xs ++ ys)).packages := by
  have hreadable : (xs ++ s :: ys).filter isReadable = (xs ++ ys).filter isReadable := by
    simp [hs]
  have hfiles := congrArg (extractions declared) hreadable
  rw [extractions_filter_isReadable, extractions_filter_isReadable] at hfiles
  rw [analyze_eq, analyze_eq, hfiles]

end Unreadable

/-- The packages are the same, in the same order, and none has a higher risk in the first report
than in the second. -/
def Report.RisksAtMost (a b : Report) : Prop :=
  List.Forall₂ (fun e e' ↦ e.1 = e'.1 ∧ e.2.risk ≤ e'.2.risk) a.packages b.packages

variable {config : Risk.Config Exact} (hc : config.IsWeighted)
variable (cap : Int) (declared : List Text)

include hc in
theorem analyze_sublist_risksAtMost {sources more : List Source} (h : sources.Sublist more) :
    (analyze config cap declared sources).RisksAtMost (analyze config cap declared more) := by
  refine analyze_packages_forall₂ (R := fun a b ↦ a.risk ≤ b.risk) cap declared config
    fun package ↦ ?_
  have hshares := shares_sublist (extractions_sublist declared h) package
  have hcounts := recordOf_counts_atMost cap hshares fun _ hs ↦ shares_isBalanced hs
  exact hcounts.level_le hc

include hc in
/-- One more file leaves every risk at least as high as it was, and exactly as it was if the file
cannot be read. -/
theorem analyze_insert_risksAtMost (xs ys : List Source) (s : Source) :
    (analyze config cap declared (xs ++ ys)).RisksAtMost
      (analyze config cap declared (xs ++ s :: ys)) ∧
    (isReadable s = false → (analyze config cap declared (xs ++ s :: ys)).packages =
      (analyze config cap declared (xs ++ ys)).packages) := by
  have hmore : (xs ++ ys).Sublist (xs ++ s :: ys) :=
    (List.sublist_cons_self s ys).append_left xs
  exact ⟨analyze_sublist_risksAtMost hc cap declared hmore,
    packages_insert_of_not_isReadable config cap declared xs ys⟩

/-- No value is at most the second threshold, which is no number. -/
theorem analyze_insert_risksAtMost_undefined :
    let config : Risk.Config Exact :=
      ⟨.rational 1, .rational 0, .rational (1 / 2), .rational 2, .undefined⟩
    let a : Source := ⟨"a.js", "_.map(xs, f);\n"⟩
    let b : Source := ⟨"b.js", [.surrogate 0]⟩
    let c : Source := ⟨"c.js", "import _ from 'lodash';\n_.map(ys, f);\n"⟩
    config.IsWeighted ∧ isReadable b = false ∧
    (analyze config 10 ["lodash"] [a, c]).RisksAtMost
      (analyze config 10 ["lodash"] [a, b, c]) ∧
    (analyze config 10 ["lodash"] [a, b, c]).packages =
      (analyze config 10 ["lodash"] [a, c]).packages := by
  intro config a b c
  have hc : config.IsWeighted :=
    ⟨⟨1, by decide, rfl⟩, ⟨0, by decide, rfl⟩, ⟨1 / 2, by norm_num, rfl⟩⟩
  have hb : isReadable b = false := rfl
  have h := analyze_insert_risksAtMost hc 10 ["lodash"] [a] [c] b
  exact ⟨hc, hb, h.1, h.2 hb⟩

end PackageAudit.Usage
