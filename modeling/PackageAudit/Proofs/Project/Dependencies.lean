import PackageAudit.Proofs.Json.Objects
import PackageAudit.Proofs.Json.RoundTrip
import PackageAudit.Proofs.Project.Manifest

namespace PackageAudit.Project.Manifest

open Json (Value)

section Sections

variable {members first second entries : List (Text × Value)} {name : String} {v : Value}

/-- A value that stands for a section without entries, although it is no object. -/
inductive IsVoid : Value → Prop
  | null : IsVoid .null
  | false : IsVoid (.bool false)
  | zero : IsVoid (.integer 0)
  | floatZero {x : Float} (h : (x == 0) = true) : IsVoid (.float x)
  | emptyString : IsVoid (.string [])
  | emptyArray : IsVoid (.array [])

/-- The entries of a section, of which there are none if it is absent or void. -/
inductive HasSection (members : List (Text × Value)) (name : String) : List (Text × Value) → Prop
  | absent (h : Text.ofString name ∉ Keyed.keys members) : HasSection members name []
  | void {v : Value} (hmem : (Text.ofString name, v) ∈ members) (hv : IsVoid v) :
      HasSection members name []
  | object {entries : List (Text × Value)} (hmem : (Text.ofString name, .object entries) ∈ members) :
      HasSection members name entries

def SpoilsSection (members : List (Text × Value)) (name : String) : Prop :=
  ∃ v, (Text.ofString name, v) ∈ members ∧ ¬ IsVoid v ∧ ∀ entries, v ≠ .object entries

theorem IsVoid.isFalsy_eq (h : IsVoid v) : v.isFalsy = true := by
  cases h with
  | floatZero h => exact h
  | _ => rfl

theorem isFalsy_iff : v.isFalsy = true ↔ IsVoid v ∨ v = .object [] := by
  constructor
  · intro h
    cases v with
    | null => exact .inl .null
    | bool b =>
      obtain rfl : b = false := by simpa [Value.isFalsy] using h
      exact .inl .false
    | integer n =>
      obtain rfl : n = 0 := by simpa [Value.isFalsy] using h
      exact .inl .zero
    | float x => exact .inl (.floatZero h)
    | string t =>
      obtain rfl : t = [] := List.isEmpty_iff.mp h
      exact .inl .emptyString
    | array items =>
      obtain rfl : items = [] := List.isEmpty_iff.mp h
      exact .inl .emptyArray
    | object members =>
      obtain rfl : members = [] := List.isEmpty_iff.mp h
      exact .inr rfl
  · rintro (h | rfl)
    · exact h.isFalsy_eq
    · rfl

theorem member?_of_mem (hn : (Keyed.keys members).Nodup) (hmem : (Text.ofString name, v) ∈ members) :
    (Value.object members).member? name = some v :=
  (Keyed.find?_key_eq_some_iff hn).mpr hmem

theorem HasSection.entries_eq (hn : (Keyed.keys members).Nodup) (h : HasSection members name entries) :
    Manifest.entries (.object members) name = .ok entries := by
  cases h with
  | absent h =>
    have hmember : (Value.object members).member? name = none := Keyed.get?_eq_none_iff.mpr h
    rw [Manifest.entries, hmember]
  | void hmem hv =>
    rw [Manifest.entries, member?_of_mem hn hmem]
    exact if_pos hv.isFalsy_eq
  | object hmem =>
    rw [Manifest.entries, member?_of_mem hn hmem]
    cases entries <;> rfl

theorem SpoilsSection.entries_eq (hn : (Keyed.keys members).Nodup) (h : SpoilsSection members name) :
    Manifest.entries (.object members) name = .error (.sectionNotObject name) := by
  obtain ⟨v, hmem, hvoid, hobject⟩ := h
  have hfalsy : ¬ v.isFalsy = true := fun h ↦ (isFalsy_iff.mp h).elim hvoid (hobject [])
  rw [Manifest.entries, member?_of_mem hn hmem]
  dsimp only
  rw [if_neg hfalsy]
  cases v with
  | object entries => exact absurd rfl (hobject entries)
  | _ => rfl

theorem hasSection_or_spoilsSection (members : List (Text × Value)) (name : String) :
    (∃ entries, HasSection members name entries) ∨ SpoilsSection members name := by
  by_cases h : Text.ofString name ∈ Keyed.keys members
  · obtain ⟨⟨_, v⟩, hmem, rfl⟩ := List.mem_map.mp h
    by_cases hvoid : IsVoid v
    · exact .inl ⟨[], .void hmem hvoid⟩
    · by_cases hobject : ∃ entries, v = .object entries
      · obtain ⟨entries, rfl⟩ := hobject
        exact .inl ⟨entries, .object hmem⟩
      · exact .inr ⟨v, hmem, hvoid, not_exists.mp hobject⟩
  · exact .inl ⟨[], .absent h⟩

/-- The keys of the first section come first, and a range of the second section wins. -/
structure IsMerge (first second : List (Text × Value)) (merged : Keyed Text) : Prop where
  nodup : merged.keys.Nodup
  keys_eq : merged.keys =
    Keyed.keys first ++ (Keyed.keys second).filter (· ∉ Keyed.keys first)
  mem_of_second : ∀ key v, (key, v) ∈ second → (key, Json.displayPlain v) ∈ merged
  mem_of_first : ∀ key v, (key, v) ∈ first → key ∉ Keyed.keys second →
    (key, Json.displayPlain v) ∈ merged

def ranges (entries : List (Text × Value)) : Keyed Text :=
  entries.map fun e ↦ (e.1, Json.displayPlain e.2)

theorem keys_ranges (entries : List (Text × Value)) : (ranges entries).keys = Keyed.keys entries := by
  simp [ranges, Keyed.keys]

theorem addSection_eq (known : Keyed Text) (entries : List (Text × Value)) :
    addSection known entries = (ranges entries).foldl (fun m e ↦ m.insert e.1 e.2) known := by
  rw [ranges, List.foldl_map, addSection]

theorem lastWins_addSections (first second : List (Text × Value)) :
    Keyed.LastWins (ranges first ++ ranges second) (addSection (addSection [] first) second) := by
  rw [addSection_eq, addSection_eq]
  exact (Keyed.LastWins.ofList (ranges first)).foldl_insert (ranges second)

theorem isMerge_addSections (hfirst : (Keyed.keys first).Nodup) (hsecond : (Keyed.keys second).Nodup) :
    IsMerge first second (addSection (addSection [] first) second) := by
  have hlast := lastWins_addSections first second
  have hkeys := hlast.keys_append (keys_ranges first ▸ hfirst) (keys_ranges second ▸ hsecond)
  have hget := hlast.get?_append (keys_ranges first ▸ hfirst) (keys_ranges second ▸ hsecond)
  rw [keys_ranges, keys_ranges] at hkeys
  refine ⟨hlast.nodup, hkeys, fun key v hmem ↦ ?_, fun key v hmem hkey ↦ ?_⟩
  · have hv : Keyed.get? second key = some v := (Keyed.find?_key_eq_some_iff hsecond).mpr hmem
    refine (Keyed.find?_key_eq_some_iff hlast.nodup).mp ((hget key).trans ?_)
    rw [ranges, Keyed.get?_map_value, hv]
    rfl
  · have hv : Keyed.get? first key = some v := (Keyed.find?_key_eq_some_iff hfirst).mpr hmem
    refine (Keyed.find?_key_eq_some_iff hlast.nodup).mp ((hget key).trans ?_)
    rw [ranges, ranges, Keyed.get?_map_value, Keyed.get?_map_value, hv,
      Keyed.get?_eq_none_iff.mpr hkey]
    rfl

end Sections

section Documents

variable {t : Text} {v : Value} {members first second : List (Text × Value)} {name : String}

theorem nodup_keys_of_holds (h : Json.Holds t (.object members)) : (Keyed.keys members).Nodup := by
  obtain ⟨rest, hdenotes, -⟩ := h
  exact hdenotes.nodup_keys

theorem HasSection.nodup_keys (h : Json.Holds t (.object members))
    (hsection : HasSection members name first) : (Keyed.keys first).Nodup := by
  obtain ⟨rest, hdenotes, -⟩ := h
  cases hsection with
  | absent h => exact List.nodup_nil
  | void hmem hv => exact List.nodup_nil
  | object hmem => exact hdenotes.nodup_keys_of_mem hmem

theorem parse_of_not_holds (hsize : ¬ Json.Oversized t) (h : ∀ v, ¬ Json.Holds t v) :
    ∃ fault place, parse t = .error (.malformed fault t place) := by
  rw [parse, Json.readDocument]
  cases hparse : Json.parse t with
  | ok v => exact absurd (Json.parse_eq_ok_iff.mp hparse) (h v)
  | error e =>
    cases e with
    | malformed fault place => exact ⟨fault, place, rfl⟩
    | longInteger => exact absurd (Json.parse_limit_iff.mp ⟨_, hparse, trivial⟩) hsize
    | deep => exact absurd (Json.parse_limit_iff.mp ⟨_, hparse, trivial⟩) hsize

theorem parse_of_holds (h : Json.Holds t v) (hv : ∀ members, v ≠ .object members) :
    parse t = .error .notObject := by
  rw [parse, Json.readDocument, Json.parse_eq_ok_iff.mpr h]
  cases v with
  | object members => exact absurd rfl (hv members)
  | _ => rfl

theorem parse_of_holds_object (h : Json.Holds t (.object members)) : parse t = do
    let first ← entries (.object members) "dependencies"
    let second ← entries (.object members) "devDependencies"
    return addSection (addSection [] first) second := by
  rw [parse, Json.readDocument, Json.parse_eq_ok_iff.mpr h]
  simp [sections]

inductive Refuses (t : Text) : Error → Prop
  | malformed {fault : Json.Fault} {place : ℕ} (h : ∀ v, ¬ Json.Holds t v) :
      Refuses t (.malformed fault t place)
  | notObject {v : Value} (h : Json.Holds t v) (hv : ∀ members, v ≠ .object members) :
      Refuses t .notObject
  | dependencies {members : List (Text × Value)} (h : Json.Holds t (.object members))
      (hfirst : SpoilsSection members "dependencies") :
      Refuses t (.sectionNotObject "dependencies")
  | devDependencies {members first : List (Text × Value)} (h : Json.Holds t (.object members))
      (hfirst : HasSection members "dependencies" first)
      (hsecond : SpoilsSection members "devDependencies") :
      Refuses t (.sectionNotObject "devDependencies")

theorem parse_of_hasSection (h : Json.Holds t (.object members))
    (hfirst : HasSection members "dependencies" first)
    (hsecond : HasSection members "devDependencies" second) :
    parse t = .ok (addSection (addSection [] first) second) := by
  have hn := nodup_keys_of_holds h
  rw [parse_of_holds_object h, hfirst.entries_eq hn, hsecond.entries_eq hn]
  rfl

theorem parse_of_spoilsSection (h : Json.Holds t (.object members))
    (hfirst : SpoilsSection members "dependencies") :
    parse t = .error (.sectionNotObject "dependencies") := by
  rw [parse_of_holds_object h, hfirst.entries_eq (nodup_keys_of_holds h)]
  rfl

theorem parse_of_spoilsSection_dev (h : Json.Holds t (.object members))
    (hfirst : HasSection members "dependencies" first)
    (hsecond : SpoilsSection members "devDependencies") :
    parse t = .error (.sectionNotObject "devDependencies") := by
  have hn := nodup_keys_of_holds h
  rw [parse_of_holds_object h, hfirst.entries_eq hn, hsecond.entries_eq hn]
  rfl

theorem exists_error_of_spoilsSection (h : Json.Holds t (.object members))
    (hname : name ∈ ["dependencies", "devDependencies"]) (hspoils : SpoilsSection members name) :
    ∃ e, parse t = .error e := by
  rcases List.mem_pair.mp hname with rfl | rfl
  · exact ⟨_, parse_of_spoilsSection h hspoils⟩
  · rcases hasSection_or_spoilsSection members "dependencies" with ⟨first, hfirst⟩ | hfirst
    · exact ⟨_, parse_of_spoilsSection_dev h hfirst hspoils⟩
    · exact ⟨_, parse_of_spoilsSection h hfirst⟩

theorem parse_cases (hsize : ¬ Json.Oversized t) :
    (∃ members first second, Json.Holds t (.object members) ∧
      HasSection members "dependencies" first ∧ HasSection members "devDependencies" second) ∨
      ∃ e, parse t = .error e ∧ Refuses t e := by
  by_cases hholds : ∃ v, Json.Holds t v
  · obtain ⟨v, h⟩ := hholds
    by_cases hobject : ∃ members, v = .object members
    · obtain ⟨members, rfl⟩ := hobject
      rcases hasSection_or_spoilsSection members "dependencies" with ⟨first, hfirst⟩ | hfirst
      · rcases hasSection_or_spoilsSection members "devDependencies" with ⟨second, hsecond⟩ | hsecond
        · exact .inl ⟨members, first, second, h, hfirst, hsecond⟩
        · exact .inr ⟨_, parse_of_spoilsSection_dev h hfirst hsecond, .devDependencies h hfirst hsecond⟩
      · exact .inr ⟨_, parse_of_spoilsSection h hfirst, .dependencies h hfirst⟩
    · have hv := not_exists.mp hobject
      exact .inr ⟨_, parse_of_holds h hv, .notObject h hv⟩
  · have hnone := not_exists.mp hholds
    obtain ⟨fault, place, hparse⟩ := parse_of_not_holds hsize hnone
    exact .inr ⟨_, hparse, .malformed hnone⟩

/-- A manifest is refused just if it is no object, or a section of it is neither void nor an object.
All others are merged, where each object has the last value of a repeated key in its first place. -/
theorem parse_merges_sections (t : Text) (hsize : ¬ Json.Oversized t) :
    ((∃ e, parse t = .error e) ↔ (∀ v, ¬ Json.Holds t v) ∨
      (∃ v, Json.Holds t v ∧ ∀ members, v ≠ .object members) ∨
      ∃ members, Json.Holds t (.object members) ∧
        ∃ name ∈ ["dependencies", "devDependencies"], SpoilsSection members name) ∧
    (∀ e, parse t = .error e → Refuses t e) ∧
    (∀ members first second, Json.Holds t (.object members) →
      HasSection members "dependencies" first → HasSection members "devDependencies" second →
      ∃ merged, parse t = .ok merged ∧ IsMerge first second merged) ∧
    ∀ depth s members rest, Json.Denotes (depth + 1) (.value (.object members)) s rest ↔
      ∃ written, Json.WritesObject depth s written rest ∧ Keyed.LastWins written members := by
  have hrefuses : ∀ e, parse t = .error e → Refuses t e := by
    intro e he
    rcases parse_cases hsize with ⟨members, first, second, h, hfirst, hsecond⟩ | ⟨e', he', hrefuses⟩
    · rw [parse_of_hasSection h hfirst hsecond] at he
      cases he
    · rw [he'] at he
      cases he
      exact hrefuses
  refine ⟨⟨?_, ?_⟩, hrefuses, ?_, fun depth s members rest ↦ Json.denotes_object_iff⟩
  · rintro ⟨e, he⟩
    cases hrefuses e he with
    | malformed h => exact .inl h
    | notObject h hv => exact .inr (.inl ⟨_, h, hv⟩)
    | dependencies h hfirst => exact .inr (.inr ⟨_, h, _, by simp, hfirst⟩)
    | devDependencies h hfirst hsecond => exact .inr (.inr ⟨_, h, _, by simp, hsecond⟩)
  · rintro (h | ⟨v, h, hv⟩ | ⟨members, h, name, hname, hspoils⟩)
    · obtain ⟨fault, place, hparse⟩ := parse_of_not_holds hsize h
      exact ⟨_, hparse⟩
    · exact ⟨_, parse_of_holds h hv⟩
    · exact exists_error_of_spoilsSection h hname hspoils
  · intro members first second h hfirst hsecond
    exact ⟨_, parse_of_hasSection h hfirst hsecond,
      isMerge_addSections (hfirst.nodup_keys h) (hsecond.nodup_keys h)⟩

def lodashSection (version : String) : Text × Value :=
  ("lodash", .string (Text.ofString version))

def collidingMembers : List (Text × Value) :=
  [("dependencies", .object [lodashSection "3"]), ("devDependencies", .object [lodashSection "4"])]

theorem isWritable_collidingMembers :
    (Value.object collidingMembers).IsWritable .ascii Json.depthLimit := by
  have hname : Json.Charset.ascii.Keeps (Text.ofString "lodash") := by decide
  have hsection : ∀ {depth : ℕ} {version : String}, Json.Charset.ascii.Keeps (Text.ofString version) →
      (Value.object [lodashSection version]).IsWritable .ascii (depth + 1) := fun hversion ↦
    .object (List.nodup_singleton _) (List.forall_mem_singleton.mpr hname)
      (List.forall_mem_singleton.mpr (.string hversion))
  refine .object (by decide) (by decide) (List.forall_mem_cons.mpr ⟨?_, List.forall_mem_singleton.mpr ?_⟩)
  · exact hsection (by decide)
  · exact hsection (by decide)

theorem parse_merges_sections_collision :
    ¬ Json.Oversized (Json.write .ascii 0 (.object collidingMembers)) ∧
      ∃ merged, parse (Json.write .ascii 0 (.object collidingMembers)) = .ok merged ∧
        merged.keys = ["lodash"] ∧ (Text.ofString "lodash", Text.ofString "4") ∈ merged := by
  have hholds : Json.Holds (Json.write .ascii 0 (.object collidingMembers)) (.object collidingMembers) :=
    Json.parse_eq_ok_iff.mp (Json.parse_write isWritable_collidingMembers)
  obtain ⟨-, -, hmerge, -⟩ := parse_merges_sections _ hholds.not_oversized
  obtain ⟨merged, hparse, h⟩ := hmerge collidingMembers [lodashSection "3"] [lodashSection "4"] hholds
    (.object List.mem_cons_self) (.object (List.mem_cons_of_mem _ List.mem_cons_self))
  exact ⟨hholds.not_oversized, merged, hparse, h.keys_eq.trans (by decide),
    h.mem_of_second _ _ List.mem_cons_self⟩

end Documents

end PackageAudit.Project.Manifest
