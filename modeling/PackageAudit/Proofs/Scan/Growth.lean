import Mathlib.Tactic.NormNum
import Mathlib.Tactic.Positivity
import Mathlib.Tactic.Ring
import PackageAudit.Proofs.Risk.Exact
import PackageAudit.Proofs.Scan.Report

namespace PackageAudit.Scan

open Risk (Exact)

section Reports

variable (xs ys : List Source)

structure Usage.IsPrefix (u v : Usage) : Prop where
  files : u.files <+: v.files
  methods : u.methods <+: v.methods
  imports : u.imports <+: v.imports

theorem usageOf_append_isPrefix (package : Text) :
    (usageOf xs package).IsPrefix (usageOf (xs ++ ys) package) := by
  rw [usageOf, usageOf, mentionsOf_append]
  constructor
  case files =>
    rw [List.map_append]
    exact Distinct.prefix_eraseDups_append _ _
  case methods =>
    rw [List.flatMap_append]
    exact Distinct.prefix_eraseDups_append _ _
  case imports => exact ⟨_, List.map_append.symm⟩

theorem unused_append_sublist (declared : List Text) :
    (scan declared (xs ++ ys)).unused.Sublist (scan declared xs).unused := by
  rw [unused_scan, unused_scan]
  apply List.monotone_filter_right
  intro p hp
  rw [mentionsOf_append, List.isEmpty_iff, List.append_eq_nil_iff] at hp
  exact List.isEmpty_iff.mpr hp.1

end Reports

section Scores

instance : OfScientific Exact :=
  ⟨fun m s e ↦ .rational (OfScientific.ofScientific m s e)⟩

def weight (package : Text) : ℚ := if broad.any (Text.ofString · = package) then 3 / 2 else 1

theorem one_le_weight (package : Text) : 1 ≤ weight package := by
  rw [weight]
  split <;> norm_num

theorem weight_le_of_mem_broad {package : Text} (h : package ∈ broad.map Text.ofString)
    (other : Text) : weight other ≤ weight package := by
  obtain ⟨name, hname, hpackage⟩ := List.mem_map.mp h
  have hbroad : broad.any (Text.ofString · = package) = true :=
    List.any_eq_true.mpr ⟨name, hname, decide_eq_true hpackage⟩
  rw [weight, weight, if_pos hbroad]
  split <;> norm_num

theorem score_eq (package : Text) (files methods imports : ℕ) :
    (score package files methods imports : Exact) =
      .rational (weight package * (2 * files + methods + imports / 2)) := by
  have hhalf : (0.5 : Exact) = .rational (1 / 2) := by
    have h : (OfScientific.ofScientific 5 true 1 : ℚ) = 1 / 2 := by norm_num
    exact congrArg Exact.rational h
  have hmore : (1.5 : Exact) = .rational (3 / 2) := by
    have h : (OfScientific.ofScientific 15 true 1 : ℚ) = 3 / 2 := by norm_num
    exact congrArg Exact.rational h
  have hsum : (((files * 2 + methods * 1 : ℕ) : ℤ) : Exact) + ((imports : ℤ) : Exact) * .rational (1 / 2) =
      .rational (2 * files + methods + imports / 2) := by
    refine congrArg Exact.rational ?_
    push_cast
    ring
  rw [score, hhalf, hmore, hsum, weight]
  split
  · refine congrArg Exact.rational ?_
    ring
  · rw [one_mul]

theorem Usage.level_le_level (config : Risk.Config Exact) {u v : Usage} {p q : Text}
    (hfiles : u.files.length ≤ v.files.length) (hmethods : u.methods.length ≤ v.methods.length)
    (himports : u.imports.length ≤ v.imports.length) (hweight : weight p ≤ weight q) :
    u.level config p ≤ v.level config q := by
  have hfiles' : (u.files.length : ℚ) ≤ v.files.length := Nat.cast_le.mpr hfiles
  have hmethods' : (u.methods.length : ℚ) ≤ v.methods.length := Nat.cast_le.mpr hmethods
  have himports' : (u.imports.length : ℚ) ≤ v.imports.length := Nat.cast_le.mpr himports
  have hq : 0 ≤ weight q := zero_le_one.trans (one_le_weight q)
  have hscore : weight p * (2 * u.files.length + u.methods.length + u.imports.length / 2) ≤
      weight q * (2 * v.files.length + v.methods.length + v.imports.length / 2) := by
    gcongr
  rw [level, level, score_eq, score_eq]
  exact config.level_le_level fun t ht ↦ Exact.rational_le hscore ht

/-- A scan of more files goes on where the scan of fewer ends, has no further unused packages, and
rates no package lower. A package of wide use has at least the level of any other with the same
counts. -/
theorem scan_append_grows (declared : List Text) (config : Risk.Config Exact)
    (xs ys : List Source) :
    (∀ package ∈ declared, ∃ u v, (scan declared xs).packages.get? package = some u ∧
      (scan declared (xs ++ ys)).packages.get? package = some v ∧ u.IsPrefix v ∧
      u.level config package ≤ v.level config package) ∧
    (scan declared (xs ++ ys)).unused.Sublist (scan declared xs).unused ∧
    ∀ wide ∈ broad.map Text.ofString, ∀ (other : Text) (u v : Usage),
      u.files.length = v.files.length → u.methods.length = v.methods.length →
      u.imports.length = v.imports.length → u.level config other ≤ v.level config wide := by
  refine ⟨fun package hpackage ↦ ?_, unused_append_sublist xs ys declared, ?_⟩
  · have hprefix := usageOf_append_isPrefix xs ys package
    refine ⟨_, _, get?_scan xs hpackage, get?_scan (xs ++ ys) hpackage, hprefix, ?_⟩
    exact Usage.level_le_level config hprefix.files.length_le hprefix.methods.length_le
      hprefix.imports.length_le le_rfl
  · intro wide hwide other u v hfiles hmethods himports
    exact Usage.level_le_level config hfiles.le hmethods.le himports.le
      (weight_le_of_mem_broad hwide other)

def growingSources : List Source :=
  [⟨"a.js", "import map from 'lodash/map';"⟩,
   ⟨"b.js", "import { get } from 'lodash'; import m from 'm';"⟩]

/-- With the first threshold above the second, one more file leads from the lowest level to the
highest. -/
theorem scan_append_grows_swappedThresholds :
    let config : Risk.Config Exact :=
      ⟨.rational 1, .rational 2, .rational (1 / 2), .rational 5, .rational (-1)⟩
    let xs := growingSources.take 1
    let ys := growingSources.drop 1
    Text.ofString "lodash" ∈ [Text.ofString "lodash", "m"] ∧
    Text.ofString "lodash" ∈ broad.map Text.ofString ∧
    (scan ["lodash", "m"] (xs ++ ys)).unused.Sublist (scan ["lodash", "m"] xs).unused ∧
    (∃ u v, (scan ["lodash", "m"] xs).packages.get? "lodash" = some u ∧
      (scan ["lodash", "m"] (xs ++ ys)).packages.get? "lodash" = some v ∧ u.IsPrefix v ∧
      u.level config "lodash" ≤ v.level config "lodash" ∧
      u.level config "lodash" = .low ∧ v.level config "lodash" = .high ∧
      v.level config "m" ≤ v.level config "lodash") := by
  intro config xs ys
  have hmember : Text.ofString "lodash" ∈ [Text.ofString "lodash", "m"] := by decide
  have hwide : Text.ofString "lodash" ∈ broad.map Text.ofString := by decide
  obtain ⟨hpackages, hunused, hlevels⟩ := scan_append_grows ["lodash", "m"] config xs ys
  obtain ⟨u, v, hu, hv, hprefix, hlevel⟩ := hpackages _ hmember
  have hrun : ((scan ["lodash", "m"] xs).packages.get? "lodash").map (·.level config "lodash") =
      some .low := by decide +kernel
  have hrun' : ((scan ["lodash", "m"] (xs ++ ys)).packages.get? "lodash").map
      (·.level config "lodash") = some .high := by decide +kernel
  rw [hu] at hrun
  rw [hv] at hrun'
  exact ⟨hmember, hwide, hunused, u, v, hu, hv, hprefix, hlevel, Option.some.inj hrun,
    Option.some.inj hrun', hlevels _ hwide "m" v v rfl rfl rfl⟩

end Scores

end PackageAudit.Scan
