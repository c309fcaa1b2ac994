import PackageAudit.Proofs.Json.Grammar
import PackageAudit.Proofs.Keyed

namespace PackageAudit.Json

variable {depth : ℕ} {members written : List (Text × Value)} {s rest : Text}

def WritesObject (depth : ℕ) (s : Text) (written : List (Text × Value)) (rest : Text) : Prop :=
  ∃ r, s = .char '\x7b' :: r ∧ (written = [] ∧ behindGap r = .char '\x7d' :: rest ∨
    Denotes depth (.members written) (behindGap r) rest)

theorem no_object_of_mem_words {w : String} : (w, .object members) ∉ words := by
  simp [words]

theorem Numeral.value_ne_object (n : Numeral) : n.value ≠ .ok (.object members) := by
  unfold Numeral.value
  split_ifs <;> simp

theorem Denotes.exists_written (h : Denotes depth (.value (.object members)) s rest) :
    ∃ d written, depth = d + 1 ∧ WritesObject d s written rest ∧ Keyed.LastWins written members := by
  generalize hv : Content.value (.object members) = content at h
  cases h with
  | word hw =>
    obtain rfl := Content.value.inj hv
    exact absurd hw no_object_of_mem_words
  | number hn hvalue =>
    obtain rfl := Content.value.inj hv
    exact absurd hvalue (Numeral.value_ne_object _)
  | emptyObject h =>
    cases hv
    exact ⟨_, [], rfl, ⟨_, rfl, .inl ⟨rfl, h⟩⟩, .nil⟩
  | @object _ ms _ _ h =>
    cases hv
    exact ⟨_, ms, rfl, ⟨_, rfl, .inr h⟩, .ofList ms⟩
  | _ => cases hv

/-- An object is read as the members that are written, where the last of equal keys wins. -/
theorem denotes_object_iff : Denotes (depth + 1) (.value (.object members)) s rest ↔
    ∃ written, WritesObject depth s written rest ∧ Keyed.LastWins written members := by
  constructor
  · intro h
    obtain ⟨d, written, hdepth, h⟩ := h.exists_written
    obtain rfl := Nat.succ.inj hdepth
    exact ⟨written, h⟩
  · rintro ⟨written, ⟨r, rfl, ⟨rfl, h⟩ | h⟩, hlast⟩
    · rw [hlast.unique .nil]
      exact .emptyObject h
    · rw [hlast.unique (.ofList written)]
      exact .object h

theorem Denotes.nodup_keys (h : Denotes depth (.value (.object members)) s rest) :
    (Keyed.keys members).Nodup := by
  obtain ⟨d, written, -, -, hlast⟩ := h.exists_written
  exact hlast.nodup

theorem Denotes.exists_of_mem_members (h : Denotes depth (.members written) s rest) :
    ∀ m ∈ written, ∃ s' rest', Denotes depth (.value m.2) s' rest' := by
  generalize hcontent : Content.members written = content at h
  induction h generalizing written with
  | lastMember hkey hv hclose ih =>
    cases hcontent
    exact List.forall_mem_singleton.mpr ⟨_, _, hv⟩
  | member hkey hv hcomma hms ih ihs =>
    cases hcontent
    exact List.forall_mem_cons.mpr ⟨⟨_, _, hv⟩, ihs rfl⟩
  | _ => cases hcontent

theorem Denotes.nodup_keys_of_mem (h : Denotes depth (.value (.object members)) s rest) {key : Text}
    {entries : List (Text × Value)} (hmem : (key, .object entries) ∈ members) :
    (Keyed.keys entries).Nodup := by
  obtain ⟨d, written, -, ⟨r, -, ⟨rfl, -⟩ | hwritten⟩, hlast⟩ := h.exists_written
  · cases hlast.mem _ hmem
  · obtain ⟨s', rest', hentries⟩ := hwritten.exists_of_mem_members _ (hlast.mem _ hmem)
    exact hentries.nodup_keys

end PackageAudit.Json
