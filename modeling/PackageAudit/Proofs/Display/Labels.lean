import Mathlib.Data.List.Induction
import PackageAudit.Proofs.Display.Markup

namespace PackageAudit.Display

open Tag (backslash backslashes bracket)
open Marked (stripped weight)

/-- Text in which nothing is markup. -/
structure IsLiteral (t : Text) : Prop where
  tags : ∀ u v, t = u ++ v → Tag.bare? v = none
  escapes : ∀ u v, t ≠ u ++ backslash :: bracket :: v
  codes : Emoji.replace t = t
  controls : ∀ c ∈ t, Markup.isControl c = false

/-- Text that is shown as it stands in front of a tag. -/
structure IsVerbatim (t : Text) : Prop extends IsLiteral t where
  last : t.getLast? ≠ some backslash

section Literal

variable {t : Text}

theorem bare?_of_no_first (h : Tag.first? t = none) : Tag.bare? t = none := by
  cases t with
  | nil => rfl
  | cons c r =>
    rw [Tag.first?] at h
    split at h
    · rename_i hc
      rw [hc]
      rfl
    · exact Option.map_eq_none_iff.mp h

theorem tags_scan_eq_nil_iff :
    (Marked.scan t).tags = [] ↔ ∀ u v, t = u ++ v → Tag.bare? v = none := by
  induction t using Marked.scan.induct with
  | case1 =>
    rw [Marked.scan_nil]
    refine iff_of_true rfl fun u v h ↦ ?_
    rw [(List.append_eq_nil_iff.mp h.symm).2]
    rfl
  | case2 c r m rest hfirst ih =>
    rw [Marked.scan_of_first? hfirst]
    refine iff_of_false (by simp) fun h ↦ ?_
    have hbare := h (backslashes m.escapes) (bracket :: (m.inside ++ Tag.closingBracket :: rest))
      (by rw [Tag.eq_of_first? hfirst]; simp [Tag.source])
    rw [Tag.bare?_of_isProper (Tag.isProper_of_first? hfirst)] at hbare
    cases hbare
  | case3 c r hfirst ih =>
    rw [Marked.scan_of_no_first hfirst, ih]
    constructor
    · intro h u v hsplit
      cases u with
      | nil =>
        rw [List.nil_append] at hsplit
        rw [← hsplit]
        exact bare?_of_no_first hfirst
      | cons d u => exact h u v (List.cons.inj hsplit).2
    · intro h u v hsplit
      exact h (c :: u) v (by rw [hsplit]; rfl)

theorem unescape_eq_self_iff :
    Marked.unescape t = t ↔ ∀ u v, t ≠ u ++ backslash :: bracket :: v := by
  induction t using Marked.unescape.induct with
  | case1 r ih =>
    refine iff_of_false (fun heq ↦ ?_) fun h ↦ h [] r rfl
    have hlength := congrArg List.length heq
    have hle := (Marked.length_unescape r).1
    rw [Marked.unescape, List.length_cons, List.length_cons, List.length_cons] at hlength
    omega
  | case2 c r hnot ih =>
    rw [Marked.unescape, List.cons.injEq, and_iff_right rfl, ih]
    · constructor
      · intro h u v hsplit
        cases u with
        | nil =>
          obtain ⟨hc, hr⟩ := List.cons.inj hsplit
          exact hnot v hc hr
        | cons d u => exact h u v (List.cons.inj hsplit).2
      · intro h u v hsplit
        exact h (c :: u) v (by rw [hsplit]; rfl)
    · exact hnot
  | case3 =>
    refine iff_of_true rfl fun u v h ↦ ?_
    have hlength := congrArg List.length h
    simp at hlength

theorem IsLiteral.scan_eq (h : IsLiteral t) : Marked.scan t = ⟨t, []⟩ :=
  Marked.scan_eq_iff.mpr (tags_scan_eq_nil_iff.mpr h.tags)

theorem IsLiteral.pieces_scan (h : IsLiteral t) : (Marked.scan t).pieces = [t] := by
  rw [h.scan_eq, Marked.pieces, List.flatMap_nil, unescape_eq_self_iff.mpr h.escapes]

theorem isLiteral_of_scan (hscan : Marked.scan t = ⟨t, []⟩) (hunescape : Marked.unescape t = t)
    (hcodes : Emoji.replace t = t) (hcontrols : ∀ c ∈ t, Markup.isControl c = false) :
    IsLiteral t :=
  ⟨tags_scan_eq_nil_iff.mp (Marked.scan_eq_iff.mp hscan), unescape_eq_self_iff.mp hunescape, hcodes,
    hcontrols⟩

/-- Code points with which nothing that is markup can be written. -/
def IsOrdinary (c : CodePoint) : Prop :=
  c ≠ bracket ∧ c ≠ backslash ∧ c ≠ Emoji.colon ∧ Markup.isControl c = false

instance : DecidablePred IsOrdinary := fun _ ↦ inferInstanceAs (Decidable (_ ∧ _))

theorem isVerbatim_of_isOrdinary (h : ∀ c ∈ t, IsOrdinary c) : IsVerbatim t where
  tags u v hsplit := by
    cases hbare : Tag.bare? v with
    | none => rfl
    | some found =>
      have hmem : bracket ∈ t := by
        rw [hsplit, Tag.eq_of_bare? hbare]
        simp
      exact absurd rfl (h bracket hmem).1
  escapes u v hsplit := (h bracket (by rw [hsplit]; simp)).1 rfl
  codes := Emoji.replace_of_colon_not_mem fun hmem ↦ (h _ hmem).2.2.1 rfl
  controls c hc := (h c hc).2.2.2
  last hlast := (h backslash (List.mem_of_getLast? hlast)).2.1 rfl

theorem bare?_cons_of_ne {c : CodePoint} (h : c ≠ bracket) : Tag.bare? (c :: t) = none := by
  cases hbare : Tag.bare? (c :: t) with
  | none => rfl
  | some found => exact absurd (List.cons.inj (Tag.eq_of_bare? hbare)).1 h

theorem isLiteral_cons_iff {c : CodePoint} (h : IsOrdinary c) :
    IsLiteral (c :: t) ↔ IsLiteral t := by
  obtain ⟨hbracket, hbackslash, hcolon, hcontrol⟩ := h
  constructor
  · intro hliteral
    refine ⟨?_, ?_, ?_, fun d hd ↦ hliteral.controls d (List.mem_cons_of_mem c hd)⟩
    · intro u v hsplit
      exact hliteral.tags (c :: u) v (by rw [hsplit]; rfl)
    · intro u v hsplit
      exact hliteral.escapes (c :: u) v (by rw [hsplit]; rfl)
    · have hcodes := hliteral.codes
      rw [Emoji.replace_cons hcolon] at hcodes
      exact (List.cons.inj hcodes).2
  · intro hliteral
    refine ⟨?_, ?_, ?_, List.forall_mem_cons.mpr ⟨hcontrol, hliteral.controls⟩⟩
    · intro u v hsplit
      cases u with
      | nil =>
        rw [List.nil_append] at hsplit
        rw [← hsplit]
        exact bare?_cons_of_ne hbracket
      | cons d u => exact hliteral.tags u v (List.cons.inj hsplit).2
    · intro u v hsplit
      cases u with
      | nil => exact hbackslash (List.cons.inj hsplit).1
      | cons d u => exact hliteral.escapes u v (List.cons.inj hsplit).2
    · rw [Emoji.replace_cons hcolon, hliteral.codes]

theorem isLiteral_append_iff {u : Text} (h : ∀ c ∈ u, IsOrdinary c) :
    IsLiteral (u ++ t) ↔ IsLiteral t := by
  induction u with
  | nil => rfl
  | cons c u ih =>
    rw [List.forall_mem_cons] at h
    rw [List.cons_append, isLiteral_cons_iff h.1, ih h.2]

theorem isLiteral_colon : IsLiteral [Emoji.colon] where
  tags u v hsplit := by
    cases v with
    | nil => rfl
    | cons c v =>
      have hmem : c ∈ [Emoji.colon] := by
        rw [hsplit]
        simp
      rw [List.mem_singleton.mp hmem]
      exact bare?_cons_of_ne (by decide)
  escapes u v hsplit := by
    have hmem : bracket ∈ [Emoji.colon] := by
      rw [hsplit]
      simp
    exact absurd (List.mem_singleton.mp hmem) (by decide)
  codes := by
    rw [Emoji.replace_of_no_code rfl, Emoji.replace_of_colon_not_mem List.not_mem_nil]
  controls c hc := by
    rw [List.mem_singleton.mp hc]
    rfl

end Literal

section Plain

variable {t e : Text} {ts : List Text}

theorem plain_eq_ok_iff : Markup.plain t = .ok e ↔
    (∃ styles, ((Marked.scan t).tags.map (·.1)).foldlM Markup.stylesBehind [] = .ok styles) ∧
      Markup.withoutControls ((Marked.scan t).pieces.flatMap Emoji.replace) = e := by
  rw [Markup.plain]
  cases hstyles : ((Marked.scan t).tags.map (·.1)).foldlM Markup.stylesBehind [] with
  | error b => simp [bind, Except.bind]
  | ok styles => simp [bind, Except.bind, pure, Except.pure]

theorem replace_of_withoutControls
    (h : Markup.withoutControls (ts.flatMap Emoji.replace) = e)
    (hcolon : ts.flatten.count Emoji.colon ≤ e.count Emoji.colon) :
    (∀ t ∈ ts, Emoji.replace t = t) ∧ Markup.withoutControls ts.flatten = e := by
  have hreplace := Emoji.count_colon_flatMap_replace ts
  have hfilter : e.count Emoji.colon ≤ (ts.flatMap Emoji.replace).count Emoji.colon := by
    rw [← h]
    exact List.Sublist.count_le _ List.filter_sublist
  have hall := hreplace.2 (by omega)
  have hflat : ts.flatMap Emoji.replace = ts.flatten := by
    rw [List.flatMap_def, List.map_congr_left hall, List.map_id']
  exact ⟨hall, hflat ▸ h⟩

end Plain

section Styled

def closing (n : ℕ) : Tag := ⟨n, "/"⟩

def styled (a x z : Text) : Text := (⟨0, a⟩ : Tag).source ++ (x ++ ((closing 0).source ++ z))

/-- The inside of a tag that opens a style. -/
structure Opens (a : Text) : Prop where
  proper : Tag.IsProper ⟨0, a⟩
  opens : ∀ styles, ∃ s, Markup.stylesBehind styles ⟨0, a⟩ = .ok (s :: styles)

variable {a b u x y z : Text}

theorem opens_of_head (hproper : Tag.IsProper ⟨0, a⟩) (hhead : a.head? ≠ some (.char '/')) :
    Opens a := by
  refine ⟨hproper, fun styles ↦ ?_⟩
  have heven : (0 : ℕ) % 2 = 0 := rfl
  rw [Markup.stylesBehind]
  dsimp only
  rw [if_pos heven]
  split
  · rename_i name hname
    have hprefix := List.takeWhile_prefix (l := a) (· ≠ CodePoint.char '=')
    rw [hname] at hprefix
    obtain ⟨rest, rfl⟩ := hprefix
    exact absurd rfl hhead
  · exact ⟨_, rfl⟩

theorem isProper_closing (n : ℕ) : (closing n).IsProper := by
  have hinside : ∀ c ∈ Text.ofString "/", Tag.isOfInside c = true := by decide
  exact ⟨⟨.char '/', rfl, rfl⟩, hinside⟩

theorem weight_kept_closing (n : ℕ) : weight (closing n).kept = (n / 2 : ℕ) := by
  have htag : weight (bracket :: (Text.ofString "/" ++ [Tag.closingBracket])) = 0 := by decide
  rw [Tag.kept, Marked.weight_append, closing, Marked.weight_backslashes]
  split
  · rfl
  · rw [htag, Int.add_zero]

theorem count_colon_kept_closing (n : ℕ) : (closing n).kept.count Emoji.colon = 0 := by
  have hcolon : Emoji.colon ≠ backslash := by decide
  have hle := Marked.count_kept_le hcolon (closing n)
  rw [Tag.source, List.count_append, Marked.count_backslashes hcolon] at hle
  exact Nat.le_zero.mp hle

theorem exists_trailing (x : Text) :
    ∃ y n, x = y ++ backslashes n ∧ y.getLast? ≠ some backslash := by
  induction x using List.reverseRecOn with
  | nil => exact ⟨[], 0, rfl, by simp⟩
  | append_singleton x c ih =>
    by_cases hc : c = backslash
    · obtain ⟨y, n, rfl, hy⟩ := ih
      refine ⟨y, n + 1, ?_, hy⟩
      rw [hc, backslashes, backslashes, List.replicate_succ', List.append_assoc]
    · exact ⟨x ++ [c], 0, by simp [backslashes], by simpa using hc⟩

theorem pieces_styled (ha : Opens a) (hu : u.getLast? ≠ some backslash)
    (hy : y.getLast? ≠ some backslash) (n : ℕ) (z : Text) :
    (Marked.scan (u ++ styled a (y ++ backslashes n) z)).pieces =
      (Marked.scan u).pieces ++
        [] :: ((Marked.scan y).pieces ++ (closing n).kept :: (Marked.scan z).pieces) := by
  have hsource : u ++ styled a (y ++ backslashes n) z =
      u ++ ((⟨0, a⟩ : Tag).source ++ (y ++ ((closing n).source ++ z))) := by
    simp [styled, closing, Tag.source, backslashes]
  have hkept : (⟨0, a⟩ : Tag).kept = [] := by simp [Tag.kept, backslashes]
  rw [hsource, Marked.pieces_append ha.proper hu, Marked.pieces_append (isProper_closing n) hy, hkept]

theorem stripped_styled (ha : Opens a) (hu : u.getLast? ≠ some backslash)
    (hy : y.getLast? ≠ some backslash) (n : ℕ) (z : Text) :
    stripped (u ++ styled a (y ++ backslashes n) z) =
      stripped u ++ (stripped y ++ ((closing n).kept ++ stripped z)) := by
  rw [stripped, pieces_styled ha hu hy]
  simp [stripped]

theorem count_colon_styled_le (ha : Opens a) (hu : u.getLast? ≠ some backslash) (x z : Text) :
    (stripped (u ++ styled a x z)).count Emoji.colon ≤ (stripped u).count Emoji.colon +
      x.count Emoji.colon + (stripped z).count Emoji.colon := by
  obtain ⟨y, n, rfl, hy⟩ := exists_trailing x
  have hle := Marked.count_colon_stripped_le y
  rw [stripped_styled ha hu hy, List.count_append, List.count_append, List.count_append,
    List.count_append, count_colon_kept_closing]
  omega

theorem weight_styled_le (ha : Opens a) (hu : u.getLast? ≠ some backslash) (x z : Text) :
    weight (stripped (u ++ styled a x z)) ≤ weight (stripped u) + weight x + weight (stripped z) ∧
      (weight (stripped u) + weight x + weight (stripped z) ≤ weight (stripped (u ++ styled a x z)) →
        x.getLast? ≠ some backslash) := by
  obtain ⟨y, n, rfl, hy⟩ := exists_trailing x
  have hle := Marked.weight_stripped_le y
  rw [stripped_styled ha hu hy, Marked.weight_append, Marked.weight_append, Marked.weight_append,
    Marked.weight_append, Marked.weight_backslashes, weight_kept_closing]
  refine ⟨by omega, fun hweight ↦ ?_⟩
  obtain rfl : n = 0 := by omega
  simpa [backslashes] using hy

theorem weight_withoutControls_le (t : Text) : weight (Markup.withoutControls t) ≤ weight t := by
  have hlength := List.length_filter_le (!Markup.isControl ·) t
  have hcount : (Markup.withoutControls t).count bracket = t.count bracket :=
    List.count_filter (by decide)
  rw [weight, weight, hcount, Markup.withoutControls]
  omega

end Styled

section Labels

/-- A label is to show a text, and shows it just under the condition. -/
structure Shows (label shown : Text) (condition : Prop) : Prop where
  colons : (stripped label).count Emoji.colon ≤ shown.count Emoji.colon
  weight_le : weight (stripped label) ≤ weight shown
  exact : (∀ t ∈ (Marked.scan label).pieces, Emoji.replace t = t) →
    (∀ c ∈ shown, Markup.isControl c = false) → weight shown ≤ weight (stripped label) →
      (stripped label).length ≤ shown.length ∧
        (shown.length ≤ (stripped label).length → condition)
  pieces : condition → (Marked.scan label).pieces.flatMap Emoji.replace = shown
  controls : condition → ∀ c ∈ shown, Markup.isControl c = false
  tags : condition → ∀ styles,
    ((Marked.scan label).tags.map (·.1)).foldlM Markup.stylesBehind styles = .ok styles

variable {label shown a u x : Text} {condition : Prop}

theorem Shows.plain_eq_iff (h : Shows label shown condition) :
    Markup.plain label = .ok shown ↔ condition := by
  rw [plain_eq_ok_iff]
  constructor
  · rintro ⟨-, hplain⟩
    obtain ⟨hcodes, hstripped⟩ := replace_of_withoutControls hplain h.colons
    have hweight : weight shown ≤ weight (stripped label) := by
      rw [← hstripped]
      exact weight_withoutControls_le _
    have hlength : shown.length ≤ (stripped label).length := by
      rw [← hstripped]
      exact List.length_filter_le _ _
    have hcontrols : ∀ c ∈ shown, Markup.isControl c = false := by
      intro c hc
      rw [← hstripped, Markup.withoutControls, List.mem_filter] at hc
      simpa using hc.2
    exact (h.exact hcodes hcontrols hweight).2 hlength
  · intro hcondition
    refine ⟨⟨[], h.tags hcondition []⟩, ?_⟩
    rw [h.pieces hcondition, Markup.withoutControls, List.filter_eq_self]
    intro c hc
    rw [h.controls hcondition c hc]
    rfl

theorem shows_self (t : Text) : Shows t t (IsLiteral t) where
  colons := Marked.count_colon_stripped_le t
  weight_le := Marked.weight_stripped_le t
  exact hcodes hcontrols _ := by
    have hlength := Marked.length_stripped t
    refine ⟨hlength.1, fun hle ↦ ?_⟩
    obtain ⟨hscan, hunescape⟩ := hlength.2 (Nat.le_antisymm hlength.1 hle)
    have hmem : t ∈ (Marked.scan t).pieces := by
      rw [hscan, Marked.pieces, hunescape]
      exact List.mem_cons_self
    exact isLiteral_of_scan hscan hunescape (hcodes t hmem) hcontrols
  pieces h := by
    rw [h.pieces_scan, List.flatMap_singleton, h.codes]
  controls h := h.controls
  tags h styles := by
    rw [h.scan_eq]
    rfl

theorem IsLiteral.stripped_eq {t : Text} (h : IsLiteral t) : stripped t = t := by
  rw [stripped, h.pieces_scan, List.flatten_cons, List.flatten_nil, List.append_nil]

theorem pieces_styled_of_last (ha : Opens a) (hu : IsLiteral u) (hu' : u.getLast? ≠ some backslash)
    (hx : x.getLast? ≠ some backslash) (z : Text) :
    (Marked.scan (u ++ styled a x z)).pieces =
      u :: [] :: ((Marked.scan x).pieces ++ [] :: (Marked.scan z).pieces) := by
  have hpieces := pieces_styled ha hu' hx 0 z
  rw [backslashes, List.replicate_zero, List.append_nil, hu.pieces_scan] at hpieces
  exact hpieces

theorem tags_styled (ha : Opens a) (hu : IsVerbatim u) (hx : IsVerbatim x) (z : Text) :
    (Marked.scan (u ++ styled a x z)).tags.map (·.1) =
      ⟨0, a⟩ :: closing 0 :: (Marked.scan z).tags.map (·.1) := by
  rw [styled, Marked.scan_append ha.proper hu.last, Marked.scan_append (isProper_closing 0) hx.last,
    hu.scan_eq, hx.scan_eq]
  rfl

theorem Shows.styled (h : Shows label shown condition) (ha : Opens a) (hu : IsVerbatim u)
    (x : Text) :
    Shows (u ++ styled a x label) (u ++ (x ++ shown)) (IsVerbatim x ∧ condition) where
  colons := by
    have hcolons := count_colon_styled_le ha hu.last x label
    have hrest := h.colons
    rw [hu.stripped_eq] at hcolons
    rw [List.count_append, List.count_append]
    omega
  weight_le := by
    have hweight := (weight_styled_le ha hu.last x label).1
    have hrest := h.weight_le
    rw [hu.stripped_eq] at hweight
    rw [Marked.weight_append, Marked.weight_append]
    omega
  exact hcodes hcontrols hweight := by
    obtain ⟨hle, hlast⟩ := weight_styled_le ha hu.last x label
    have hrest := h.weight_le
    rw [hu.stripped_eq] at hle hlast
    rw [Marked.weight_append, Marked.weight_append] at hweight
    have hx : x.getLast? ≠ some backslash := hlast (by omega)
    have hpieces := pieces_styled_of_last ha hu.toIsLiteral hu.last hx label
    have hstripped : stripped (u ++ Display.styled a x label) =
        u ++ (stripped x ++ stripped label) := by
      rw [stripped, hpieces]
      simp [stripped]
    rw [hpieces, List.forall_mem_cons, List.forall_mem_cons, List.forall_mem_append,
      List.forall_mem_cons] at hcodes
    rw [List.forall_mem_append, List.forall_mem_append] at hcontrols
    rw [hstripped, Marked.weight_append, Marked.weight_append] at hweight
    have hself := (shows_self x).weight_le
    obtain ⟨hlength, hliteral⟩ :=
      (shows_self x).exact hcodes.2.2.1 hcontrols.2.1 (by omega)
    obtain ⟨hlength', hcondition⟩ := h.exact hcodes.2.2.2.2 hcontrols.2.2 (by omega)
    rw [hstripped]
    simp only [List.length_append]
    refine ⟨by omega, fun hge ↦ ⟨⟨hliteral (by omega), hx⟩, hcondition (by omega)⟩⟩
  pieces h' := by
    rw [pieces_styled_of_last ha hu.toIsLiteral hu.last h'.1.last, h'.1.pieces_scan,
      List.flatMap_cons, List.flatMap_cons, List.flatMap_append, List.flatMap_singleton,
      List.flatMap_cons, h.pieces h'.2, hu.codes, h'.1.codes,
      Emoji.replace_of_colon_not_mem List.not_mem_nil]
    rfl
  controls h' := by
    rw [List.forall_mem_append, List.forall_mem_append]
    exact ⟨hu.controls, h'.1.controls, h.controls h'.2⟩
  tags h' styles := by
    obtain ⟨s, hopen⟩ := ha.opens styles
    have hclose : Markup.stylesBehind (s :: styles) (closing 0) = .ok styles := rfl
    rw [tags_styled ha hu h'.1, List.foldlM_cons, hopen]
    exact h.tags h'.2 styles

theorem isVerbatim_nil : IsVerbatim [] := isVerbatim_of_isOrdinary (by simp)

theorem Shows.congr {condition' : Prop} (h : Shows label shown condition)
    (hcondition : condition ↔ condition') : Shows label shown condition' :=
  propext hcondition ▸ h

theorem Shows.styled_first (h : Shows label shown condition) (ha : Opens a) (x : Text) :
    Shows (Display.styled a x label) (x ++ shown) (IsVerbatim x ∧ condition) :=
  h.styled ha isVerbatim_nil x

theorem shows_styled_last (ha : Opens a) (hu : IsVerbatim u) (x : Text) :
    Shows (u ++ Display.styled a x []) (u ++ x) (IsVerbatim x) := by
  have h := (shows_self []).styled ha hu x
  rw [List.append_nil] at h
  exact h.congr (and_iff_left isVerbatim_nil.toIsLiteral)

theorem shows_styled (ha : Opens a) (x : Text) : Shows (Display.styled a x []) x (IsVerbatim x) :=
  shows_styled_last ha isVerbatim_nil x

theorem shows_styled_before (ha : Opens a) (hx : IsVerbatim x) (t : Text) :
    Shows (Display.styled a x (" " ++ t)) (x ++ (" " ++ t)) (IsLiteral t) := by
  have hspace : ∀ c ∈ Text.ofString " ", IsOrdinary c := by decide
  refine ((shows_self (" " ++ t)).styled_first ha x).congr ?_
  exact (and_iff_right hx).trans (isLiteral_append_iff hspace)

end Labels

end PackageAudit.Display
