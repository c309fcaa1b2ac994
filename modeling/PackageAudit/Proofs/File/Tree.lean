import Mathlib.Data.List.Lex
import Mathlib.Data.List.Nodup
import Mathlib.Data.List.Sort
import PackageAudit.File.Tree
import PackageAudit.Proofs.Keyed
import PackageAudit.Proofs.Lists
import PackageAudit.Proofs.Text.CodePoint

namespace PackageAudit

namespace Location

variable {l m n : Location} {s t : Text}

/-- The first part in which two locations differ decides, and a location stands before all below
it. -/
def Precedes : Location → Location → Prop := List.Lex Text.Precedes

instance : IsStrictTotalOrder Location Precedes := Lists.isStrictTotalOrder_lex _

theorem Precedes.ne (h : Precedes l m) : l ≠ m := ne_of_irrefl h

theorem le_cons_iff : Location.le (s :: l) (t :: m) = true ↔
    s ≠ t ∧ Text.le s t = true ∨ s = t ∧ Location.le l m = true := by
  rw [Location.le]
  split
  · rename_i h
    simp [h]
  · rename_i h
    simp [h]

theorem le_iff : Location.le l m = true ↔ l = m ∨ Precedes l m := by
  induction l generalizing m with
  | nil =>
    cases m with
    | nil => exact ⟨fun _ ↦ .inl rfl, fun _ ↦ rfl⟩
    | cons t m => exact ⟨fun _ ↦ .inr .nil, fun _ ↦ rfl⟩
  | cons s l ih =>
    cases m with
    | nil =>
      refine ⟨fun h ↦ (nomatch h), fun h ↦ ?_⟩
      rcases h with h | h <;> cases h
    | cons t m =>
      rw [le_cons_iff, ih, Text.le_iff, Precedes, List.cons_lex_cons_iff, List.cons.injEq, ← Precedes]
      constructor
      · rintro (⟨hne, h⟩ | ⟨rfl, h⟩)
        · exact .inr (.inl (h.resolve_left hne))
        · exact h.imp (⟨rfl, ·⟩) fun h ↦ .inr ⟨rfl, h⟩
      · rintro (⟨rfl, rfl⟩ | h | ⟨rfl, h⟩)
        · exact .inr ⟨rfl, .inl rfl⟩
        · exact .inl ⟨ne_of_irrefl h, .inr h⟩
        · exact .inr ⟨rfl, .inr h⟩

protected theorem le_antisymm (h : Location.le l m = true) (h' : Location.le m l = true) :
    l = m := by
  rw [le_iff] at h h'
  exact (partialOrderOfSO Precedes).le_antisymm l m h h'

protected theorem le_trans (h : Location.le l m = true) (h' : Location.le m n = true) :
    Location.le l n = true := by
  rw [le_iff] at h h' ⊢
  exact (partialOrderOfSO Precedes).le_trans l m n h h'

protected theorem le_total (l m : Location) : (Location.le l m || Location.le m l) = true := by
  rw [Bool.or_eq_true, le_iff, le_iff]
  rcases trichotomous_of Precedes l m with h | h | h
  · exact .inl (.inr h)
  · exact .inl (.inl h)
  · exact .inr (.inr h)

end Location

namespace Tree

/-- Two trees with the same files and directories, named in any order. -/
structure SameEntries (t t' : Tree) : Prop where
  files : t.files.Perm t'.files
  directories : t.directories.Perm t'.directories
  current : t.current = t'.current

def HasDistinctFiles (t : Tree) : Prop := (t.files.map (·.1)).Nodup

instance (t : Tree) : Decidable t.HasDistinctFiles :=
  inferInstanceAs (Decidable (t.files.map (·.1)).Nodup)

variable {t t' : Tree} {l root : Location}

theorem content?_eq_some_iff (ht : t.HasDistinctFiles) {bytes : List UInt8} :
    t.content? l = some bytes ↔ (l, bytes) ∈ t.files :=
  Keyed.find?_key_eq_some_iff ht

theorem read_of_not_has {p : Path} (h : t.has p = false) : ∃ b, t.read p = .error b := by
  cases hl : t.locate p with
  | error b => exact ⟨b, by rw [read, hl]; rfl⟩
  | ok l =>
    simp only [has, hl, Bool.or_eq_false_iff] at h
    have hnone : t.content? l = none := by
      rw [content?, Option.map_eq_none_iff, List.find?_eq_none]
      exact List.any_eq_false.mp h.1
    refine ⟨if t.isDirectory l then .directory else t.absence l, ?_⟩
    rw [read, hl]
    simp only [bind, Except.bind, hnone]
    rfl

theorem readText_of_not_has {p : Path} (h : t.has p = false) : ∃ b, t.readText p = .error b := by
  obtain ⟨b, hread⟩ := read_of_not_has h
  exact ⟨b, by rw [readText, hread]; rfl⟩

theorem has_of_read {p : Path} {bytes : List UInt8} (h : t.read p = .ok bytes) :
    t.has p = true := by
  cases hhas : t.has p with
  | true => rfl
  | false =>
    obtain ⟨b, hread⟩ := read_of_not_has hhas
    rw [h] at hread
    cases hread

theorem readText_of_read {p : Path} {bytes : List UInt8} (h : t.read p = .ok bytes) :
    t.readText p =
      match Encoding.decode? bytes with
      | some cs => .ok (Encoding.unifyLines cs)
      | none => .error .undecodable := by
  rw [readText, h]
  simp only [bind, Except.bind]
  cases Encoding.decode? bytes <;> rfl

namespace SameEntries

variable (h : t.SameEntries t')
include h

theorem isFile_eq (l : Location) : t.isFile l = t'.isFile l := h.files.any_eq

theorem isDirectory_eq (l : Location) : t.isDirectory l = t'.isDirectory l := by
  rw [isDirectory, isDirectory, h.directories.any_eq, h.files.any_eq]

theorem absence_eq (l : Location) : t.absence l = t'.absence l := by
  rw [absence, absence, isBlocked, isBlocked, h.files.any_eq]

theorem step_eq : t.step = t'.step := by
  funext l part
  rw [step, step, h.isDirectory_eq, h.isFile_eq, h.absence_eq]

theorem locate_eq (p : Path) : t.locate p = t'.locate p := by
  rw [locate, locate, h.current, h.step_eq]

theorem content?_eq (ht : t.HasDistinctFiles) (l : Location) : t.content? l = t'.content? l := by
  have ht' : t'.HasDistinctFiles := (h.files.map Prod.fst).nodup_iff.mp ht
  apply Option.ext
  intro bytes
  rw [content?_eq_some_iff ht, content?_eq_some_iff ht', h.files.mem_iff]

theorem readText_eq (ht : t.HasDistinctFiles) (p : Path) : t.readText p = t'.readText p := by
  have hread : t.read p = t'.read p := by
    rw [read, read, h.locate_eq]
    simp only [h.content?_eq ht, h.isDirectory_eq, h.absence_eq]
  rw [readText, readText, hread]

end SameEntries

theorem sorted_below (t : Tree) (root : Location) :
    ((t.below root).mergeSort Location.le).Pairwise fun l m ↦ Location.le l m = true := by
  apply List.pairwise_mergeSort
  · exact fun _ _ _ ↦ Location.le_trans
  · exact Location.le_total

theorem pairwise_mergeSort_below (ht : t.HasDistinctFiles) (root : Location) :
    ((t.below root).mergeSort Location.le).Pairwise Location.Precedes := by
  have hdistinct : ((t.below root).mergeSort Location.le).Nodup :=
    (List.mergeSort_perm _ _).nodup_iff.mpr (List.Nodup.filter _ ht)
  refine ((sorted_below t root).and hdistinct).imp ?_
  rintro l m ⟨hle, hne⟩
  exact (Location.le_iff.mp hle).resolve_left hne

theorem mem_mergeSort_below : l ∈ (t.below root).mergeSort Location.le ↔
    t.isFile l = true ∧ ∃ below, below ≠ [] ∧ l = root ++ below := by
  rw [List.mem_mergeSort, below, List.mem_filter, Bool.and_eq_true, decide_eq_true_eq,
    List.isPrefixOf_iff_prefix]
  refine and_congr ?_ ?_
  · simp [isFile]
  · constructor
    · rintro ⟨⟨below, rfl⟩, hne⟩
      exact ⟨below, fun hnil ↦ hne (by rw [hnil, List.append_nil]), rfl⟩
    · rintro ⟨below, hne, rfl⟩
      exact ⟨List.prefix_append root below, fun heq ↦ hne (List.self_eq_append_right.mp heq.symm)⟩

/-- What names the files below a directory in the order of their locations is the sorted list of
them. -/
theorem mergeSort_below_eq_of_perm {ls : List Location} (hls : (t.below root).Perm ls)
    (hsorted : ls.Pairwise fun l m ↦ Location.le l m = true) :
    (t.below root).mergeSort Location.le = ls :=
  ((List.mergeSort_perm _ _).trans hls).eq_of_pairwise (fun _ _ _ _ ↦ Location.le_antisymm)
    (sorted_below t root) hsorted

theorem SameEntries.mergeSort_below_eq (h : t.SameEntries t') (root : Location) :
    (t.below root).mergeSort Location.le = (t'.below root).mergeSort Location.le := by
  have hbelow : (t.below root).Perm (t'.below root) := (h.files.map Prod.fst).filter _
  exact mergeSort_below_eq_of_perm (hbelow.trans (List.mergeSort_perm _ _).symm)
    (sorted_below t' root)

end Tree

end PackageAudit
