import PackageAudit.Proofs.Distinct
import PackageAudit.Text.Keyed

namespace PackageAudit.Keyed

variable {α : Type}

theorem contains_iff (m : Keyed α) (key : Text) : m.contains key = true ↔ key ∈ m.keys := by
  simp [contains, keys]

theorem get?_nil (key : Text) : get? ([] : Keyed α) key = none := rfl

theorem get?_cons (e : Text × α) (m : Keyed α) (key : Text) :
    get? (e :: m) key = if e.1 = key then some e.2 else m.get? key := by
  by_cases h : e.1 = key <;> simp [get?, h]

theorem get?_append (m m' : Keyed α) (key : Text) :
    get? (m ++ m') key = (m.get? key).or (m'.get? key) := by
  induction m with
  | nil => simp [get?_nil]
  | cons e m ih =>
    rw [List.cons_append, get?_cons, get?_cons, ih]
    by_cases h : e.1 = key <;> simp [h]

theorem get?_eq_none_iff {m : Keyed α} {key : Text} : m.get? key = none ↔ key ∉ m.keys := by
  induction m with
  | nil => simp [get?_nil, keys]
  | cons e m ih =>
    have hkeys : keys (e :: m) = e.1 :: keys m := rfl
    rw [get?_cons, hkeys, List.mem_cons, not_or, ← ih]
    by_cases h : e.1 = key
    · simp [h]
    · have h' : ¬ key = e.1 := fun he ↦ h he.symm
      simp [h, h']

theorem mem_keys_iff {m : Keyed α} {key : Text} : key ∈ m.keys ↔ ∃ v, m.get? key = some v := by
  rw [← Option.ne_none_iff_exists', Ne, get?_eq_none_iff, Decidable.not_not]

theorem find?_key_eq_some_iff {κ : Type} [DecidableEq κ] {entries : List (κ × α)}
    (hn : (entries.map (·.1)).Nodup) {key : κ} {value : α} :
    (entries.find? (·.1 = key)).map (·.2) = some value ↔ (key, value) ∈ entries := by
  induction entries with
  | nil => simp
  | cons e entries ih =>
    obtain ⟨he, hn⟩ := List.nodup_cons.mp hn
    by_cases h : e.1 = key
    · have hkey : (key, value) ∉ entries := fun hmem ↦
        he (List.mem_map.mpr ⟨_, hmem, h.symm⟩)
      rw [List.find?_cons_of_pos (by simpa using h), Option.map_some, Option.some_inj,
        List.mem_cons, or_iff_left hkey, Prod.ext_iff, and_iff_right h.symm, eq_comm]
    · have hne : (key, value) ≠ e := fun heq ↦ h (heq ▸ rfl)
      rw [List.find?_cons_of_neg (by simpa using h), ih hn, List.mem_cons, or_iff_right hne]

theorem get?_map_update (m : Keyed α) (key : Text) (value : α) (k : Text) :
    get? (m.map fun e ↦ if e.1 = key then (key, value) else e) k =
      if k = key then (m.get? key).map fun _ ↦ value else m.get? k := by
  induction m with
  | nil => simp [get?_nil]
  | cons e m ih =>
    rw [List.map_cons, get?_cons, get?_cons, get?_cons, ih]
    by_cases he : e.1 = key <;> by_cases hk : k = key
    · simp [he, hk]
    · have hk' : ¬ key = k := fun h ↦ hk h.symm
      simp [he, hk, hk']
    · simp [he, hk]
    · simp [he, hk]

theorem get?_insert (m : Keyed α) (key : Text) (value : α) (k : Text) :
    (m.insert key value).get? k = if k = key then some value else m.get? k := by
  unfold insert
  split
  · rename_i h
    obtain ⟨v, hv⟩ := mem_keys_iff.mp ((contains_iff m key).mp h)
    rw [get?_map_update, hv]
    rfl
  · rename_i h
    have hnone : m.get? key = none :=
      get?_eq_none_iff.mpr fun hk ↦ h ((contains_iff m key).mpr hk)
    rw [get?_append, get?_cons, get?_nil]
    by_cases hk : k = key
    · subst hk; simp [hnone]
    · have hk' : ¬ key = k := fun h ↦ hk h.symm
      simp [hk, hk']

theorem keys_insert (m : Keyed α) (key : Text) (value : α) :
    (m.insert key value).keys = if key ∈ m.keys then m.keys else m.keys ++ [key] := by
  simp only [insert, contains_iff]
  split
  · simp only [keys, List.map_map]
    apply List.map_congr_left
    intro e _
    by_cases he : e.1 = key <;> simp [he]
  · simp [keys]

theorem keys_insert_of_nodup {m : Keyed α} (hm : m.keys.Nodup) (key : Text) (value : α) :
    (m.insert key value).keys = (m.keys ++ [key]).eraseDups := by
  rw [keys_insert]
  split
  · rename_i h
    rw [Distinct.eraseDups_concat_of_mem h, Distinct.eraseDups_of_nodup hm]
  · rename_i h
    rw [Distinct.eraseDups_concat_of_notMem h, Distinct.eraseDups_of_nodup hm]

theorem insert_of_not_mem {m : Keyed α} {key : Text} (h : key ∉ m.keys) (value : α) :
    m.insert key value = m ++ [(key, value)] := by
  have hc : m.contains key ≠ true := fun hc ↦ h ((contains_iff m key).mp hc)
  rw [insert, if_neg hc]

theorem ofList_of_nodup {entries : List (Text × α)} (h : (keys entries).Nodup) :
    ofList entries = entries := by
  have hfold : ∀ (rest : List (Text × α)) (m : Keyed α), (keys (m ++ rest)).Nodup →
      rest.foldl (fun m e ↦ m.insert e.1 e.2) m = m ++ rest := by
    intro rest
    induction rest with
    | nil => intro m _; rw [List.foldl_nil, List.append_nil]
    | cons e rest ih =>
      intro m hm
      have happ : m ++ e :: rest = m ++ [e] ++ rest := by simp
      have hnew : e.1 ∉ m.keys := by
        intro hmem
        rw [keys, List.map_append, List.map_cons] at hm
        exact (List.disjoint_of_nodup_append hm) hmem List.mem_cons_self
      rw [List.foldl_cons, insert_of_not_mem hnew, ih _ (happ ▸ hm), happ]
  exact hfold entries [] h

/-- Each key stands once, where it comes first, with the value that it has last. -/
structure LastWins (entries : List (Text × α)) (m : Keyed α) : Prop where
  keys_eq : m.keys = (entries.map (·.1)).eraseDups
  get?_eq : ∀ key, m.get? key = ((entries.filter (·.1 = key)).getLast?).map (·.2)

namespace LastWins

variable {entries : List (Text × α)} {m : Keyed α}

theorem nodup (h : LastWins entries m) : m.keys.Nodup := h.keys_eq ▸ Distinct.nodup_eraseDups _

theorem insert (h : LastWins entries m) (e : Text × α) :
    LastWins (entries ++ [e]) (m.insert e.1 e.2) where
  keys_eq := by
    rw [keys_insert_of_nodup h.nodup, h.keys_eq, Distinct.eraseDups_eraseDups_append,
      List.map_append, List.map_singleton]
  get?_eq key := by
    rw [get?_insert, h.get?_eq, List.filter_append, List.filter_singleton]
    by_cases hkey : key = e.1
    · simp [hkey]
    · have hkey' : ¬ e.1 = key := fun heq ↦ hkey heq.symm
      simp [hkey, hkey']

theorem foldl_insert (h : LastWins entries m) (more : List (Text × α)) :
    LastWins (entries ++ more) (more.foldl (fun m e ↦ m.insert e.1 e.2) m) := by
  induction more generalizing entries m with
  | nil => rwa [List.append_nil]
  | cons e more ih =>
    have hstep := ih (h.insert e)
    rwa [List.append_assoc] at hstep

theorem nil : LastWins [] ([] : Keyed α) := ⟨rfl, fun _ ↦ rfl⟩

theorem ofList (entries : List (Text × α)) : LastWins entries (ofList entries) :=
  nil.foldl_insert entries

theorem mem (h : LastWins entries m) : ∀ e ∈ m, e ∈ entries := by
  intro e he
  have hget : m.get? e.1 = some e.2 := (find?_key_eq_some_iff h.nodup).mpr he
  rw [h.get?_eq] at hget
  obtain ⟨e', hlast, hvalue⟩ := Option.map_eq_some_iff.mp hget
  obtain ⟨hmem, hkey⟩ := List.mem_filter.mp (List.mem_of_getLast? hlast)
  obtain rfl : e' = e := Prod.ext (of_decide_eq_true hkey) hvalue
  exact hmem

theorem of_nodup (hm : m.keys.Nodup) : LastWins m m := by
  have h := ofList m
  rwa [ofList_of_nodup hm] at h

/-- Of two lists with different keys each, the second decides on the values of their common keys. -/
theorem get?_append {first second : Keyed α} (h : LastWins (first ++ second) m)
    (hfirst : first.keys.Nodup) (hsecond : second.keys.Nodup) (key : Text) :
    m.get? key = (second.get? key).or (first.get? key) := by
  rw [h.get?_eq, (of_nodup hfirst).get?_eq, (of_nodup hsecond).get?_eq, List.filter_append,
    List.getLast?_append, Option.map_or]

theorem keys_append {first second : Keyed α} (h : LastWins (first ++ second) m)
    (hfirst : first.keys.Nodup) (hsecond : second.keys.Nodup) :
    m.keys = first.keys ++ second.keys.filter (· ∉ first.keys) := by
  have hnew : (second.keys.filter (· ∉ first.keys)).Nodup := hsecond.filter _
  have hremove : second.keys.removeAll first.keys = second.keys.filter (· ∉ first.keys) := by
    apply List.filter_congr
    intro key _
    simp
  have hmap : (first ++ second).map (·.1) = first.keys ++ second.keys := List.map_append
  rw [h.keys_eq, hmap, List.eraseDups_append, hremove, Distinct.eraseDups_of_nodup hfirst,
    Distinct.eraseDups_of_nodup hnew]

end LastWins

theorem get?_map_value {β : Type} (m : Keyed α) (f : α → β) (key : Text) :
    get? (m.map fun e ↦ (e.1, f e.2)) key = (m.get? key).map f := by
  induction m with
  | nil => rfl
  | cons e m ih =>
    rw [List.map_cons, get?_cons, get?_cons, ih]
    by_cases h : e.1 = key <;> simp [h]

theorem get?_map_pair (keys : List Text) (value : Text → α) (k : Text) :
    get? (keys.map fun key ↦ (key, value key)) k = if k ∈ keys then some (value k) else none := by
  induction keys with
  | nil => rfl
  | cons key keys ih =>
    rw [List.map_cons, get?_cons, ih]
    by_cases hk : key = k
    · subst hk; simp
    · have hk' : ¬ k = key := fun h ↦ hk h.symm
      simp [hk, hk']

theorem insert_map_pair (keys : List Text) (value : Text → α) {key : Text}
    (hk : key ∈ keys) (v : α) :
    insert (keys.map fun k ↦ (k, value k)) key v =
      keys.map fun k ↦ (k, if key = k then v else value k) := by
  have hc : contains (keys.map fun k ↦ (k, value k)) key = true := by
    simp [contains, hk]
  rw [insert, if_pos hc, List.map_map]
  apply List.map_congr_left
  intro k _
  by_cases he : key = k
  · subst he; simp
  · have he' : ¬ k = key := fun h ↦ he h.symm
    simp [he, he']

section

variable [Inhabited α]

theorem get?_amend (m : Keyed α) (key : Text) (change : α → α) (k : Text) :
    (m.amend key change).get? k =
      if k = key then some (change ((m.get? key).getD default)) else m.get? k := by
  rw [amend, get?_insert]

theorem keys_amend (m : Keyed α) (key : Text) (change : α → α) :
    (m.amend key change).keys = if key ∈ m.keys then m.keys else m.keys ++ [key] := by
  rw [amend, keys_insert]

/-- The order of the keys, and the value under each of them, are all that there is. -/
theorem eq_map_keys {m : Keyed α} (hn : m.keys.Nodup) :
    m = m.keys.map fun k ↦ (k, (m.get? k).getD default) := by
  induction m with
  | nil => rfl
  | cons e m ih =>
    obtain ⟨he, hn'⟩ : e.1 ∉ keys m ∧ (keys m).Nodup := List.nodup_cons.mp hn
    have hkeys : keys (e :: m) = e.1 :: keys m := rfl
    have hrest : (keys m).map (fun k ↦ (k, (get? (e :: m) k).getD default)) =
        (keys m).map fun k ↦ (k, (get? m k).getD default) := by
      apply List.map_congr_left
      intro k hk
      have hne : e.1 ≠ k := fun h ↦ he (h ▸ hk)
      rw [get?_cons, if_neg hne]
    rw [hkeys, List.map_cons, hrest, ← ih hn', get?_cons, if_pos rfl, Option.getD_some]

theorem LastWins.unique {entries : List (Text × α)} {m m' : Keyed α} (h : LastWins entries m)
    (h' : LastWins entries m') : m = m' := by
  rw [eq_map_keys h.nodup, eq_map_keys h'.nodup, h.keys_eq, h'.keys_eq]
  simp only [h.get?_eq, h'.get?_eq]

variable {β : Type} (key? : β → Option Text) (change : β → α → α)

/-- One change after the other, each under the key of its item. Items without a key change none. -/
def amendEach (m : Keyed α) (items : List β) : Keyed α :=
  items.foldl (fun m b ↦ match key? b with
    | none => m
    | some key => m.amend key (change b)) m

theorem amendEach_cons (m : Keyed α) (b : β) (items : List β) :
    amendEach key? change m (b :: items) = match key? b with
      | none => amendEach key? change m items
      | some key => amendEach key? change (m.amend key (change b)) items := by
  unfold amendEach
  rw [List.foldl_cons]
  cases key? b <;> rfl

theorem amendEach_append (m : Keyed α) (items items' : List β) :
    amendEach key? change m (items ++ items') =
      amendEach key? change (amendEach key? change m items) items' :=
  List.foldl_append

theorem keys_amendEach (m : Keyed α) (items : List β) (hm : m.keys.Nodup) :
    (amendEach key? change m items).keys = (m.keys ++ items.filterMap key?).eraseDups := by
  induction items generalizing m with
  | nil => rw [List.filterMap_nil, List.append_nil, Distinct.eraseDups_of_nodup hm]; rfl
  | cons b items ih =>
    rw [amendEach_cons]
    cases hb : key? b with
    | none => rw [List.filterMap_cons_none hb]; exact ih m hm
    | some key =>
      have hkeys : (m.amend key (change b)).keys = (m.keys ++ [key]).eraseDups :=
        keys_insert_of_nodup hm key _
      have hnodup : (m.amend key (change b)).keys.Nodup := hkeys ▸ Distinct.nodup_eraseDups _
      rw [List.filterMap_cons_some hb]
      dsimp only
      rw [ih _ hnodup, hkeys, Distinct.eraseDups_eraseDups_append, List.append_assoc]
      rfl

theorem nodup_keys_amendEach (m : Keyed α) (items : List β) (hm : m.keys.Nodup) :
    (amendEach key? change m items).keys.Nodup := by
  rw [keys_amendEach key? change m items hm]
  exact Distinct.nodup_eraseDups _

theorem getD_amendEach (m : Keyed α) (items : List β) (k : Text) :
    ((amendEach key? change m items).get? k).getD default =
      (items.filter (key? · = some k)).foldl (fun v b ↦ change b v) ((m.get? k).getD default) := by
  induction items generalizing m with
  | nil => rfl
  | cons b items ih =>
    rw [amendEach_cons]
    cases hb : key? b with
    | none =>
      rw [List.filter_cons_of_neg (by simp [hb])]
      exact ih m
    | some key =>
      dsimp only
      rw [ih, get?_amend]
      by_cases hk : k = key
      · rw [List.filter_cons_of_pos (by simp [hb, hk]), List.foldl_cons, if_pos hk, hk,
          Option.getD_some]
      · have hk' : ¬ key = k := fun h ↦ hk h.symm
        rw [List.filter_cons_of_neg (by simp [hb, hk']), if_neg hk]

end

end PackageAudit.Keyed
