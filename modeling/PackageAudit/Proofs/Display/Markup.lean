import Mathlib.Data.List.TakeWhile
import PackageAudit.Display.Markup
import PackageAudit.Proofs.Display.Emoji

namespace PackageAudit.Display

namespace Tag

/-- A tag as it can be read in a text. -/
structure IsProper (m : Tag) : Prop where
  start : ∃ c, m.inside.head? = some c ∧ isStart c = true
  inside : ∀ c ∈ m.inside, isOfInside c = true

variable {t u w inside rest : Text} {m : Tag}

theorem IsProper.length_inside (h : IsProper m) : 0 < m.inside.length := by
  obtain ⟨c, hc, -⟩ := h.start
  cases hinside : m.inside with
  | nil =>
    rw [hinside] at hc
    cases hc
  | cons d i => exact Nat.succ_pos _

theorem IsProper.bracket_not_mem (h : IsProper m) : bracket ∉ m.inside := fun hmem ↦
  absurd (h.inside bracket hmem) (by decide)

theorem isProper_of_bare? (h : bare? t = some (inside, rest)) (n : ℕ) : IsProper ⟨n, inside⟩ := by
  unfold bare? at h
  split at h
  · split at h
    · rename_i c r hc
      split at h
      · cases h
        refine ⟨⟨c, rfl, hc⟩, List.forall_mem_cons.mpr ⟨?_, fun d hd ↦ List.mem_takeWhile_imp hd⟩⟩
        rw [isOfInside, Bool.and_eq_true, decide_eq_true_eq, decide_eq_true_eq]
        constructor <;> rintro rfl <;> exact absurd hc (by decide)
      · cases h
    · cases h
  · cases h

theorem isProper_of_first? (h : first? t = some (m, rest)) : IsProper m := by
  induction t generalizing m with
  | nil => cases h
  | cons c r ih =>
    rw [first?] at h
    split at h
    · obtain ⟨⟨m', rest'⟩, hm, heq⟩ := Option.map_eq_some_iff.mp h
      cases heq
      exact ⟨(ih hm).start, (ih hm).inside⟩
    · obtain ⟨⟨inside, rest'⟩, hbare, heq⟩ := Option.map_eq_some_iff.mp h
      cases heq
      exact isProper_of_bare? hbare 0

theorem bare?_of_isProper (h : IsProper m) (z : Text) :
    bare? (bracket :: (m.inside ++ closingBracket :: z)) = some (m.inside, z) := by
  obtain ⟨c, hhead, hc⟩ := h.start
  obtain ⟨i, hi⟩ : ∃ i, m.inside = c :: i := by
    cases hinside : m.inside with
    | nil =>
      rw [hinside] at hhead
      cases hhead
    | cons d i =>
      rw [hinside] at hhead
      exact ⟨i, by rw [Option.some.inj hhead]⟩
  have hall : ∀ d ∈ i, isOfInside d = true := fun d hd ↦ h.inside d (hi ▸ List.mem_cons_of_mem c hd)
  have hstop : isOfInside closingBracket = false := by decide
  rw [hi, List.cons_append, bracket, bare?, if_pos hc, List.dropWhile_append_of_pos hall,
    List.takeWhile_append_of_pos hall, List.dropWhile_cons_of_neg (by simp [hstop]),
    List.takeWhile_cons_of_neg (by simp [hstop]), List.append_nil]
  rfl

theorem first?_source (h : IsProper m) (z : Text) : first? (m.source ++ z) = some (m, z) := by
  obtain ⟨n, inside⟩ := m
  rw [source, backslashes]
  dsimp only
  induction n with
  | zero =>
    have hbare := bare?_of_isProper h z
    rw [List.replicate_zero, List.nil_append, List.cons_append, first?, if_neg (by decide)]
    simp only [List.append_assoc, List.cons_append, List.nil_append]
    rw [hbare]
    rfl
  | succ n ih =>
    have hrest := ih ⟨h.start, h.inside⟩
    rw [List.replicate_succ, List.cons_append, List.cons_append, first?, if_pos rfl, hrest]
    rfl

theorem first?_append (h : first? u = some (m, rest)) (w : Text) :
    first? (u ++ w) = some (m, rest ++ w) := by
  rw [eq_of_first? h, List.append_assoc]
  exact first?_source (isProper_of_first? h) (rest ++ w)

theorem bare?_append_eq_none {n : ℕ} (h : bare? u = none) (hne : u ≠ []) (w : Text) :
    bare? (u ++ (backslashes n ++ bracket :: w)) = none := by
  rw [Option.eq_none_iff_forall_ne_some]
  rintro ⟨inside, rest⟩ hsome
  have hproper := isProper_of_bare? hsome 0
  have hsplit := eq_of_bare? hsome
  obtain ⟨c, v, rfl⟩ := List.exists_cons_of_ne_nil hne
  rw [List.cons_append, List.cons.injEq] at hsplit
  obtain ⟨rfl, hsplit⟩ := hsplit
  have hnot : closingBracket ∉ backslashes n := fun hmem ↦
    absurd (List.eq_of_mem_replicate hmem) (by decide)
  -- The bracket behind the text would stand inside the tag, or close it.
  rcases List.append_eq_append_iff.mp hsplit with ⟨x, hinside, hrest⟩ | ⟨x, hv, hrest⟩
  · rcases List.append_eq_append_iff.mp hrest with ⟨y, hx, hclose⟩ | ⟨y, hback, hclose⟩
    · cases y with
      | nil => exact absurd (List.cons.inj hclose).1 (by decide)
      | cons d y =>
        obtain ⟨rfl, -⟩ := List.cons.inj hclose
        have hmem : bracket ∈ inside := by rw [hinside, hx]; simp
        exact absurd (hproper.inside _ hmem) (by decide)
    · cases y with
      | nil => exact absurd (List.cons.inj hclose).1 (by decide)
      | cons d y =>
        obtain ⟨rfl, -⟩ := List.cons.inj hclose
        exact hnot (by rw [hback]; simp)
  · cases x with
    | nil =>
      cases n with
      | zero => exact absurd (List.cons.inj hrest).1 (by decide)
      | succ n => exact absurd (List.cons.inj hrest).1 (by decide)
    | cons d x =>
      obtain ⟨rfl, -⟩ := List.cons.inj hrest
      rw [hv, bare?_of_isProper hproper x] at h
      cases h

theorem first?_append_eq_none {n : ℕ} (h : first? u = none) (hne : u ≠ [])
    (hlast : u.getLast? ≠ some backslash) (w : Text) :
    first? (u ++ (backslashes n ++ bracket :: w)) = none := by
  induction u with
  | nil => exact absurd rfl hne
  | cons c r ih =>
    rw [first?] at h
    rw [List.cons_append, first?]
    split at h
    · rename_i hc
      rw [if_pos hc, Option.map_eq_none_iff]
      rw [Option.map_eq_none_iff] at h
      have hr : r ≠ [] := by
        rintro rfl
        exact hlast (by rw [hc]; rfl)
      rw [List.getLast?_cons_of_ne_nil hr] at hlast
      exact ih h hr hlast
    · rename_i hc
      rw [if_neg hc, Option.map_eq_none_iff]
      rw [Option.map_eq_none_iff] at h
      exact bare?_append_eq_none h hne w

end Tag

namespace Marked

open Tag (backslash backslashes bracket)

variable {t u rest : Text} {m : Tag}

theorem scan_nil : scan [] = ⟨[], []⟩ := by rw [scan]

theorem scan_of_first? (h : Tag.first? t = some (m, rest)) :
    scan t = ⟨[], (m, (scan rest).front) :: (scan rest).tags⟩ := by
  cases t with
  | nil => cases h
  | cons c r =>
    rw [scan]
    split
    · rename_i hfirst
      rw [h] at hfirst
      cases hfirst
      rfl
    · rename_i hfirst
      rw [h] at hfirst
      cases hfirst

theorem scan_of_no_first {c : CodePoint} (h : Tag.first? (c :: t) = none) :
    scan (c :: t) = ⟨c :: (scan t).front, (scan t).tags⟩ := by
  rw [scan]
  split
  · rename_i hfirst
    rw [h] at hfirst
    cases hfirst
  · rfl

theorem getLast?_behind {v : Text} (hlast : (v ++ u).getLast? ≠ some backslash) :
    u.getLast? ≠ some backslash := by
  intro hu
  rw [List.getLast?_append, hu] at hlast
  exact hlast rfl

/-- A tag behind a text is read with all the backslashes in front of it. -/
theorem scan_append (hm : m.IsProper) (hlast : u.getLast? ≠ some backslash) (z : Text) :
    scan (u ++ (m.source ++ z)) =
      ⟨(scan u).front, (scan u).tags ++ (m, (scan z).front) :: (scan z).tags⟩ := by
  induction u using scan.induct with
  | case1 => rw [List.nil_append, scan_of_first? (Tag.first?_source hm z), scan_nil]; rfl
  | case2 c r m' rest hfirst ih =>
    have hbehind : rest.getLast? ≠ some backslash := by
      rw [Tag.eq_of_first? hfirst] at hlast
      exact getLast?_behind hlast
    rw [scan_of_first? (Tag.first?_append hfirst _), ih hbehind, scan_of_first? hfirst]
    rfl
  | case3 c r hfirst ih =>
    have hnone : Tag.first? (c :: r ++ (m.source ++ z)) = none := by
      rw [Tag.source, List.append_assoc]
      exact Tag.first?_append_eq_none hfirst (List.cons_ne_nil c r) hlast _
    have hbehind : r.getLast? ≠ some backslash := getLast?_behind (v := [c]) hlast
    rw [List.cons_append] at hnone ⊢
    rw [scan_of_no_first hnone, ih hbehind, scan_of_no_first hfirst]

theorem pieces_append (hm : m.IsProper) (hlast : u.getLast? ≠ some backslash) (z : Text) :
    (scan (u ++ (m.source ++ z))).pieces = (scan u).pieces ++ m.kept :: (scan z).pieces := by
  rw [scan_append hm hlast, pieces, pieces, pieces, List.flatMap_append, List.flatMap_cons]
  rfl

theorem isProper_of_mem_scan {e : Tag × Text} (h : e ∈ (scan t).tags) : e.1.IsProper := by
  induction t using scan.induct with
  | case1 =>
    rw [scan_nil] at h
    cases h
  | case2 c r m' rest hfirst ih =>
    rw [scan_of_first? hfirst, List.mem_cons] at h
    rcases h with rfl | h
    · exact Tag.isProper_of_first? hfirst
    · exact ih h
  | case3 c r hfirst ih =>
    rw [scan_of_no_first hfirst] at h
    exact ih h

theorem source_scan (t : Text) :
    (scan t).front ++ (scan t).tags.flatMap (fun e ↦ e.1.source ++ e.2) = t := by
  induction t using scan.induct with
  | case1 => rw [scan_nil]; rfl
  | case2 c r m' rest hfirst ih =>
    rw [scan_of_first? hfirst, List.flatMap_cons, List.nil_append, List.append_assoc, ih,
      ← Tag.eq_of_first? hfirst]
  | case3 c r hfirst ih => rw [scan_of_no_first hfirst, List.cons_append, ih]

theorem scan_eq_iff : scan t = ⟨t, []⟩ ↔ (scan t).tags = [] := by
  refine ⟨fun h ↦ by rw [h], fun h ↦ ?_⟩
  have hsource := source_scan t
  rw [h, List.flatMap_nil, List.append_nil] at hsource
  calc
    scan t = ⟨(scan t).front, (scan t).tags⟩ := rfl
    _ = ⟨t, []⟩ := by rw [hsource, h]

def stripped (t : Text) : Text := (scan t).pieces.flatten

theorem stripped_eq (t : Text) : stripped t =
    unescape (scan t).front ++ (scan t).tags.flatMap fun e ↦ e.1.kept ++ unescape e.2 := by
  rw [stripped, pieces, List.flatten_cons, List.flatMap_def, List.flatten_flatten, List.map_map]
  simp [List.flatMap_def, Function.comp_def]

section Measures

theorem measure_stripped_le (μ : Text → ℤ) (k : ℤ) (hadd : ∀ a b, μ (a ++ b) = μ a + μ b)
    (hgap : ∀ t, μ (unescape t) ≤ μ t) (htag : ∀ m : Tag, m.IsProper → μ m.kept + k ≤ μ m.source)
    (t : Text) : μ (stripped t) + k * (scan t).tags.length ≤ μ t := by
  have hnil : μ [] = 0 := by
    have h := hadd [] []
    rw [List.append_nil] at h
    omega
  have hbehind : ∀ tags : List (Tag × Text), (∀ e ∈ tags, e.1.IsProper) →
      μ (tags.flatMap fun e ↦ e.1.kept ++ unescape e.2) + k * tags.length ≤
        μ (tags.flatMap fun e ↦ e.1.source ++ e.2) := by
    intro tags htags
    induction tags with
    | nil => simp [hnil]
    | cons e tags ih =>
      rw [List.forall_mem_cons] at htags
      have hrest := ih htags.2
      have hfirst := htag e.1 htags.1
      have hgap' := hgap e.2
      rw [List.flatMap_cons, List.flatMap_cons, hadd, hadd, hadd, hadd, List.length_cons,
        Int.natCast_add, Int.natCast_one, Int.mul_add, Int.mul_one]
      omega
  have hsource := congrArg μ (source_scan t)
  have htags := hbehind (scan t).tags fun e he ↦ isProper_of_mem_scan he
  have hfront := hgap (scan t).front
  rw [hadd] at hsource
  rw [stripped_eq, hadd]
  omega

theorem length_unescape (t : Text) :
    (unescape t).length ≤ t.length ∧ ((unescape t).length = t.length → unescape t = t) := by
  induction t using unescape.induct with
  | case1 r ih =>
    rw [unescape]
    simp only [List.length_cons]
    refine ⟨by omega, fun hlength ↦ ?_⟩
    omega
  | case2 c r hnot ih =>
    rw [unescape]
    · simp only [List.length_cons, List.cons.injEq, true_and]
      exact ⟨by omega, fun hlength ↦ ih.2 (by omega)⟩
    · exact hnot
  | case3 => simp [unescape]

theorem count_unescape {c : CodePoint} (hc : c ≠ backslash) (t : Text) :
    (unescape t).count c = t.count c := by
  induction t using unescape.induct with
  | case1 r ih =>
    have hslash : (CodePoint.char '\\' == c) = false := by
      simpa using fun h ↦ hc h.symm
    rw [unescape, List.count_cons, List.count_cons, List.count_cons, ih, hslash]
    rfl
  | case2 d r hnot ih =>
    rw [unescape]
    · rw [List.count_cons, List.count_cons, ih]
    · exact hnot
  | case3 => rw [unescape]

/-- The measure by which an escaped closing tag weighs nothing. -/
def weight (t : Text) : ℤ := t.length - 3 * t.count bracket

theorem weight_append (a b : Text) : weight (a ++ b) = weight a + weight b := by
  rw [weight, weight, weight, List.length_append, List.count_append]
  omega

theorem count_backslashes {c : CodePoint} (hc : c ≠ backslash) (n : ℕ) :
    (backslashes n).count c = 0 :=
  List.count_eq_zero.mpr fun hmem ↦ hc (List.eq_of_mem_replicate hmem)

theorem length_backslashes (n : ℕ) : (backslashes n).length = n := List.length_replicate

theorem weight_backslashes (n : ℕ) : weight (backslashes n) = n := by
  rw [weight, count_backslashes (by decide), length_backslashes]
  omega

theorem length_kept_lt (hm : m.IsProper) : m.kept.length + 1 ≤ m.source.length := by
  have hinside := hm.length_inside
  rw [Tag.kept, Tag.source]
  split <;>
  · simp only [List.length_append, length_backslashes, List.length_cons, List.length_nil]
    omega

theorem weight_kept_le (hm : m.IsProper) : weight m.kept ≤ weight m.source := by
  have hinside := hm.length_inside
  have hcount : (bracket :: (m.inside ++ [Tag.closingBracket])).count bracket = 1 := by
    rw [List.count_cons_self, List.count_append, List.count_eq_zero.mpr hm.bracket_not_mem]
    rfl
  have hlength : (bracket :: (m.inside ++ [Tag.closingBracket])).length = m.inside.length + 2 := by
    simp
  rw [Tag.kept, Tag.source, weight_append, weight_append, weight_backslashes, weight_backslashes]
  split
  · rw [weight, weight, hcount, hlength, List.length_nil, List.count_nil]
    omega
  · omega

theorem count_kept_le {c : CodePoint} (hc : c ≠ backslash) (m : Tag) :
    m.kept.count c ≤ m.source.count c := by
  rw [Tag.kept, Tag.source, List.count_append, List.count_append, count_backslashes hc,
    count_backslashes hc]
  split
  · rw [List.count_nil]
    omega
  · exact Nat.le_refl _

theorem count_colon_stripped_le (t : Text) :
    (stripped t).count Emoji.colon ≤ t.count Emoji.colon := by
  have hcolon : Emoji.colon ≠ backslash := by decide
  have h := measure_stripped_le (fun t ↦ t.count Emoji.colon) 0
    (fun a b ↦ by rw [List.count_append, Int.natCast_add])
    (fun t ↦ by
      have hcount := count_unescape hcolon t
      omega)
    (fun m _ ↦ by
      have hkept := count_kept_le hcolon m
      omega) t
  omega

theorem weight_stripped_le (t : Text) : weight (stripped t) ≤ weight t := by
  have h := measure_stripped_le weight 0 weight_append
    (fun t ↦ by
      have hlength := (length_unescape t).1
      rw [weight, weight, count_unescape (by decide)]
      omega)
    (fun m hm ↦ by
      have hkept := weight_kept_le hm
      omega) t
  omega

theorem length_stripped (t : Text) : (stripped t).length ≤ t.length ∧
    ((stripped t).length = t.length → scan t = ⟨t, []⟩ ∧ unescape t = t) := by
  have h := measure_stripped_le (fun t ↦ t.length) 1
    (fun a b ↦ by rw [List.length_append, Int.natCast_add])
    (fun t ↦ by
      have hlength := (length_unescape t).1
      omega)
    (fun m hm ↦ by
      have hkept := length_kept_lt hm
      omega) t
  refine ⟨by omega, fun hlength ↦ ?_⟩
  have htags : (scan t).tags = [] := List.length_eq_zero_iff.mp (by omega)
  have hscan := scan_eq_iff.mpr htags
  have hstripped : stripped t = unescape t := by
    rw [stripped_eq, hscan, List.flatMap_nil, List.append_nil]
  rw [hstripped] at hlength
  exact ⟨hscan, (length_unescape t).2 hlength⟩

end Measures

end Marked

end PackageAudit.Display
