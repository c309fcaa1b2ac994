import PackageAudit.Package.Specifier
import PackageAudit.Proofs.Text.CodePoint

namespace PackageAudit.Package

variable {s r t first : Text} {k : ℕ}

/-- A relative or an absolute path, which names a module of the project itself. -/
def IsLocal (s : Text) : Prop := s.head? = some (.char '.') ∨ s.head? = some (.char '/')

/-- How many slashes the name of a package may have: one behind a scope. -/
def slashesOf (s : Text) : ℕ := if s.head? = some (.char '@') then 1 else 0

/-- A text begins with another, which has that many slashes at most and ends at its end or before
one of its slashes. -/
structure IsHead (k : ℕ) (s r : Text) : Prop where
  count_le : r.count (.char '/') ≤ k
  ends : r = s ∨ ∃ t, s = r ++ .char '/' :: t

structure IsLongestHead (k : ℕ) (s r : Text) : Prop extends IsHead k s r where
  longest : ∀ u, IsHead k s u → u.length ≤ r.length

section Heads

theorem IsHead.isPrefix (h : IsHead k s r) : r <+: s := by
  rcases h.ends with rfl | ⟨t, rfl⟩
  · exact List.prefix_refl r
  · exact List.prefix_append r _

theorem IsHead.isLongestHead (h : IsHead k s r) (hr : r = s ∨ k ≤ r.count (.char '/')) :
    IsLongestHead k s r := by
  refine ⟨h, fun u hu ↦ ?_⟩
  rcases h.ends with rfl | ⟨t, rfl⟩
  · exact hu.isPrefix.length_le
  rcases hr with hr | hr
  · rw [← hr] at hu
    exact hu.isPrefix.length_le
  by_contra hlt
  -- A longer one takes in the slash behind the head, which is one too many.
  have hbehind : r ++ [.char '/'] <+: u := by
    refine List.prefix_of_prefix_length_le ⟨t, by simp⟩ hu.isPrefix ?_
    rw [List.length_append, List.length_singleton]
    omega
  have hcount := hbehind.sublist.count_le (.char '/')
  have hmost := hu.count_le
  rw [List.count_append, List.count_singleton_self] at hcount
  omega

theorem IsLongestHead.unique (hr : IsLongestHead k s r) (ht : IsLongestHead k s t) : r = t := by
  have hle := ht.longest r hr.toIsHead
  have hge := hr.longest t ht.toIsHead
  exact (List.prefix_of_prefix_length_le hr.isPrefix ht.isPrefix hle).eq_of_length (by omega)

theorem IsLongestHead.self (h : IsLongestHead k s r) : IsLongestHead k r r :=
  IsHead.isLongestHead ⟨h.count_le, .inl rfl⟩ (.inl rfl)

end Heads

section Segments

def firstSegments (count : ℕ) (s : Text) : Text :=
  Text.joinWith [.char '/'] ((Text.splitOn (.char '/') s).take count)

theorem firstSegments_of_not_mem (h : .char '/' ∉ s) : firstSegments (k + 1) s = s := by
  rw [firstSegments, Text.splitOn_of_not_mem h, List.take_of_length_le (by simp), Text.joinWith]

theorem splitOn_segment (h : .char '/' ∉ first) (s : Text) :
    Text.splitOn (.char '/') (first ++ .char '/' :: s) = first :: Text.splitOn (.char '/') s := by
  rw [Text.splitOn_append_cons, Text.splitOn_of_not_mem h, List.singleton_append]

theorem firstSegments_one (h : .char '/' ∉ first) (s : Text) :
    firstSegments 1 (first ++ .char '/' :: s) = first := by
  rw [firstSegments, splitOn_segment h]
  rfl

theorem firstSegments_succ (h : .char '/' ∉ first) (s : Text) :
    firstSegments (k + 2) (first ++ .char '/' :: s) =
      first ++ .char '/' :: firstSegments (k + 1) s := by
  have hne : Text.splitOn (.char '/') s ≠ [] := by
    rw [Text.splitOn_eq]
    exact List.splitOn_ne_nil _ s
  obtain ⟨next, rest, hsplit⟩ := List.exists_cons_of_ne_nil hne
  rw [firstSegments, firstSegments, splitOn_segment h, hsplit]
  simp [Text.joinWith]

theorem firstSegments_cases (k : ℕ) (s : Text) :
    firstSegments (k + 1) s = s ∧ s.count (.char '/') ≤ k ∨
      (∃ t, s = firstSegments (k + 1) s ++ .char '/' :: t) ∧
        (firstSegments (k + 1) s).count (.char '/') = k := by
  induction k generalizing s with
  | zero =>
    by_cases h : .char '/' ∈ s
    · obtain ⟨first, rest, rfl, hfirst⟩ := List.eq_append_cons_of_mem h
      rw [firstSegments_one hfirst]
      exact .inr ⟨⟨rest, rfl⟩, List.count_eq_zero_of_not_mem hfirst⟩
    · exact .inl ⟨firstSegments_of_not_mem h, (List.count_eq_zero_of_not_mem h).le⟩
  | succ k ih =>
    by_cases h : .char '/' ∈ s
    · obtain ⟨first, rest, rfl, hfirst⟩ := List.eq_append_cons_of_mem h
      rw [firstSegments_succ hfirst, List.count_append, List.count_append, List.count_cons_self,
        List.count_cons_self, List.count_eq_zero_of_not_mem hfirst, Nat.zero_add, Nat.zero_add]
      rcases ih rest with ⟨hall, hcount⟩ | ⟨⟨t, ht⟩, hcount⟩
      · exact .inl ⟨by rw [hall], by omega⟩
      · refine .inr ⟨⟨t, ?_⟩, by omega⟩
        rw [List.append_assoc, List.cons_append, ← ht]
    · refine .inl ⟨firstSegments_of_not_mem h, ?_⟩
      rw [List.count_eq_zero_of_not_mem h]
      exact Nat.zero_le _

theorem isLongestHead_firstSegments (k : ℕ) (s : Text) :
    IsLongestHead k s (firstSegments (k + 1) s) := by
  rcases firstSegments_cases k s with ⟨hall, hcount⟩ | ⟨hends, hcount⟩
  · rw [hall]
    exact IsHead.isLongestHead ⟨hcount, .inl rfl⟩ (.inl rfl)
  · exact IsHead.isLongestHead ⟨hcount.le, .inr hends⟩ (.inr hcount.ge)

end Segments

section Packages

theorem ofSpecifier?_of_isLocal (h : IsLocal s) : ofSpecifier? s = none := by
  rcases h with h | h
  all_goals
    obtain ⟨t, rfl⟩ := List.head?_eq_some_iff.mp h
    rfl

theorem ofSpecifier?_of_not_isLocal (h : ¬ IsLocal s) :
    ofSpecifier? s = some (firstSegments (slashesOf s + 1) s) := by
  unfold ofSpecifier?
  split
  · exact absurd (.inl rfl) h
  · exact absurd (.inr rfl) h
  · rw [firstSegments, slashesOf]
    split <;> rfl

theorem ofSpecifier?_eq_none_iff : ofSpecifier? s = none ↔ IsLocal s := by
  refine ⟨fun h ↦ ?_, ofSpecifier?_of_isLocal⟩
  by_contra hlocal
  rw [ofSpecifier?_of_not_isLocal hlocal] at h
  cases h

theorem ofSpecifier?_eq_some_iff :
    ofSpecifier? s = some r ↔ ¬ IsLocal s ∧ IsLongestHead (slashesOf s) s r := by
  have hfirst := isLongestHead_firstSegments (slashesOf s) s
  constructor
  · intro h
    have hlocal : ¬ IsLocal s := fun hlocal ↦ by
      rw [ofSpecifier?_of_isLocal hlocal] at h
      cases h
    rw [ofSpecifier?_of_not_isLocal hlocal, Option.some_inj] at h
    exact ⟨hlocal, h ▸ hfirst⟩
  · rintro ⟨hlocal, hr⟩
    rw [ofSpecifier?_of_not_isLocal hlocal, hr.unique hfirst]

theorem isLocal_congr (h : s.head? = t.head?) : IsLocal s ↔ IsLocal t := by
  rw [IsLocal, IsLocal, h]

theorem slashesOf_congr (h : s.head? = t.head?) : slashesOf s = slashesOf t := by
  rw [slashesOf, slashesOf, h]

theorem IsHead.head?_eq (h : IsHead k s r) (hr : r ≠ []) : r.head? = s.head? := by
  obtain ⟨t, rfl⟩ := h.isPrefix
  rw [List.head?_append_of_ne_nil r hr]

theorem ofSpecifier?_self (h : ofSpecifier? s = some r) : ofSpecifier? r = some r := by
  obtain ⟨hlocal, hr⟩ := ofSpecifier?_eq_some_iff.mp h
  by_cases hnil : r = []
  · rw [hnil]
    rfl
  · have hhead := hr.head?_eq hnil
    rw [ofSpecifier?_eq_some_iff, isLocal_congr hhead, slashesOf_congr hhead]
    exact ⟨hlocal, hr.self⟩

theorem ofSpecifier?_below (h : ofSpecifier? s = some r) (hne : r ≠ [])
    (hscope : r.head? = some (.char '@') → .char '/' ∈ r) (t : Text) :
    ofSpecifier? (r ++ .char '/' :: t) = some r := by
  obtain ⟨hlocal, hr⟩ := ofSpecifier?_eq_some_iff.mp (ofSpecifier?_self h)
  have hhead : (r ++ .char '/' :: t).head? = r.head? := List.head?_append_of_ne_nil r hne
  rw [ofSpecifier?_eq_some_iff, isLocal_congr hhead, slashesOf_congr hhead]
  refine ⟨hlocal, IsHead.isLongestHead ⟨hr.count_le, .inr ⟨t, rfl⟩⟩ (.inr ?_)⟩
  rw [slashesOf]
  split
  · rename_i hat
    exact List.count_pos_iff.mpr (hscope hat)
  · exact Nat.zero_le _

/-- A specifier names a package unless it is a path of its own; the package is the longest head that
ends with a segment and has a slash only behind a scope. That head is its own package, and the
package of all paths below it. -/
theorem ofSpecifier?_isLongestHead (s : Text) :
    (ofSpecifier? s = none ↔ IsLocal s) ∧
    (∀ r, ofSpecifier? s = some r ↔ ¬ IsLocal s ∧ IsLongestHead (slashesOf s) s r) ∧
    ∀ r, ofSpecifier? s = some r → ofSpecifier? r = some r ∧
      ∀ t, r ≠ [] → (r.head? = some (.char '@') → .char '/' ∈ r) →
        ofSpecifier? (r ++ .char '/' :: t) = some r := by
  refine ⟨ofSpecifier?_eq_none_iff, fun r ↦ ofSpecifier?_eq_some_iff, fun r hr ↦ ?_⟩
  exact ⟨ofSpecifier?_self hr, fun t hne hscope ↦ ofSpecifier?_below hr hne hscope t⟩

theorem ofSpecifier?_isLongestHead_emptyName :
    let s : Text := "@scope//lib"
    let r : Text := "@scope/"
    ofSpecifier? s = some r ∧ (¬ IsLocal s ∧ IsLongestHead (slashesOf s) s r) ∧
      ofSpecifier? r = some r ∧ (r ≠ [] ∧ r.head? = some (.char '@') ∧ .char '/' ∈ r) ∧
      ofSpecifier? (r ++ .char '/' :: Text.ofString "a/b") = some r := by
  intro s r
  have hr : ofSpecifier? s = some r := by decide
  have hscope : r ≠ [] ∧ r.head? = some (.char '@') ∧ .char '/' ∈ r := by decide
  obtain ⟨-, hhead, hpackage⟩ := ofSpecifier?_isLongestHead s
  obtain ⟨hself, hbelow⟩ := hpackage r hr
  exact ⟨hr, (hhead r).mp hr, hself, hscope,
    hbelow (Text.ofString "a/b") hscope.1 fun _ ↦ hscope.2.2⟩

end Packages

end PackageAudit.Package
