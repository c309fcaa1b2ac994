import PackageAudit.Project.Manifest
import PackageAudit.Proofs.File.Encoding
import PackageAudit.Proofs.File.Tree
import PackageAudit.Proofs.Json.Recognition

namespace PackageAudit.Project.Manifest

open Json (Value)

variable {tree : Tree} {path : Path} {bytes : List UInt8}

/-- The dependencies are known, or there is an error with a message of its own. -/
def Answers : Except Error (Keyed Text) → Prop
  | .error (.broken _) => False
  | _ => True

instance : DecidablePred Answers
  | .error (.broken _) => inferInstanceAs (Decidable False)
  | .error (.notFound _) | .error (.malformed ..) | .error .notObject | .error (.sectionNotObject _) |
    .ok _ => inferInstanceAs (Decidable True)

theorem entries_eq_ok_or (manifest : Value) (name : String) :
    (∃ members, entries manifest name = .ok members) ∨
      entries manifest name = .error (.sectionNotObject name) := by
  unfold entries
  split
  · exact .inl ⟨_, rfl⟩
  · split
    · exact .inl ⟨_, rfl⟩
    · split
      · exact .inl ⟨_, rfl⟩
      · exact .inr rfl

theorem answers_sections (manifest : Value) (names : List String) (known : Keyed Text) :
    Answers (names.foldlM (fun known name ↦ return addSection known (← entries manifest name))
      known) := by
  induction names generalizing known with
  | nil => trivial
  | cons name names ih =>
    rw [List.foldlM_cons]
    rcases entries_eq_ok_or manifest name with ⟨members, hentries⟩ | hentries
    · rw [hentries]
      exact ih _
    · rw [hentries]
      trivial

/-- The text of a manifest is answered unless it goes beyond a limit. -/
theorem parse_answers_iff {t : Text} : Answers (parse t) ↔ ¬ Json.Oversized t := by
  rw [← Json.parse_limit_iff, parse, Json.readDocument]
  cases Json.parse t with
  | ok v =>
    refine iff_of_true ?_ ?_
    · cases v with
      | object members => exact answers_sections _ _ _
      | _ => trivial
    · rintro ⟨e, h, -⟩
      cases h
  | error e =>
    cases e with
    | malformed fault place =>
      refine iff_of_true trivial ?_
      rintro ⟨e, h, he⟩
      cases h
      exact he
    | longInteger => exact iff_of_false id fun h ↦ h ⟨_, rfl, trivial⟩
    | deep => exact iff_of_false id fun h ↦ h ⟨_, rfl, trivial⟩

/-- A manifest is answered just if its octets are a text that stays inside the limits. -/
theorem load_answers_iff (hread : tree.read path = .ok bytes) : Answers (load tree path) ↔
    ∃ cs, bytes = Encoding.encode cs ∧
      ¬ Json.Oversized (Text.ofChars (Encoding.unifyLines cs)) := by
  rw [load, if_pos (Tree.has_of_read hread), Tree.readText_of_read hread]
  cases hdecoded : Encoding.decode? bytes with
  | none =>
    refine iff_of_false id ?_
    rintro ⟨cs, hbytes, -⟩
    rw [Encoding.decode?_eq_some_iff.mpr hbytes] at hdecoded
    cases hdecoded
  | some cs =>
    refine parse_answers_iff.trans ⟨fun h ↦ ⟨cs, Encoding.decode?_eq_some_iff.mp hdecoded, h⟩, ?_⟩
    rintro ⟨cs', hbytes, h⟩
    rw [Encoding.decode?_eq_some_iff.mpr hbytes] at hdecoded
    obtain rfl := Option.some.inj hdecoded
    exact h

def manifestPath : Path := ⟨[.char '/'], ["p", "package.json"]⟩

def manifestTree (bytes : List UInt8) : Tree := ⟨[(["p", "package.json"], bytes)], [], []⟩

def lodashManifest : String := "\x7b\"dependencies\": \x7b\"lodash\": \"4\"\x7d\x7d"

-- Evaluating the reader is out of reach, so that the members are put together by the grammar.
theorem holds_lodashManifest :
    Json.Holds (Text.ofChars (Encoding.unifyLines lodashManifest.toList))
      (.object [(Text.ofString "dependencies",
        .object [(Text.ofString "lodash", .string (Text.ofString "4"))])]) := by
  have hversion := Json.spells_self (t := Text.ofString "4") (by decide) (Text.ofString "\x7d\x7d")
  have hlodash := Json.spells_self (t := Text.ofString "lodash") (by decide)
    (Text.ofString ": \"4\"\x7d\x7d")
  have hdependencies := Json.spells_self (t := Text.ofString "dependencies") (by decide)
    (Text.ofString ": \x7b\"lodash\": \"4\"\x7d\x7d")
  have hmember : Json.Denotes 988
      (.members [(Text.ofString "lodash", .string (Text.ofString "4"))])
      (Text.ofString "\"lodash\": \"4\"\x7d\x7d") (Text.ofString "\x7d") :=
    .lastMember ⟨_, _, _, rfl, hlodash, rfl, rfl⟩ (.string hversion) rfl
  have hsection := Json.Denotes.object (s := Text.ofString "\"lodash\": \"4\"\x7d\x7d") hmember
  have hmembers : Json.Denotes 989 (.members [(Text.ofString "dependencies",
      .object [(Text.ofString "lodash", .string (Text.ofString "4"))])])
      (Text.ofString "\"dependencies\": \x7b\"lodash\": \"4\"\x7d\x7d") [] :=
    .lastMember ⟨_, _, _, rfl, hdependencies, rfl, rfl⟩ hsection rfl
  have hobject := Json.Denotes.object
    (s := Text.ofString "\"dependencies\": \x7b\"lodash\": \"4\"\x7d\x7d") hmembers
  exact ⟨[], hobject, rfl⟩

theorem load_answers_iff_lodashManifest :
    (manifestTree (Encoding.encode lodashManifest.toList)).read manifestPath =
        .ok (Encoding.encode lodashManifest.toList) ∧
      Answers (load (manifestTree (Encoding.encode lodashManifest.toList)) manifestPath) := by
  have hread : (manifestTree (Encoding.encode lodashManifest.toList)).read manifestPath =
      .ok (Encoding.encode lodashManifest.toList) := by decide +kernel
  refine ⟨hread, ?_⟩
  rw [load_answers_iff hread]
  exact ⟨lodashManifest.toList, rfl, holds_lodashManifest.not_oversized⟩

/-- An octet that starts no character leaves the manifest without an answer. -/
theorem not_answers_undecodable :
    load (manifestTree [0xff]) manifestPath = .error (.broken .undecodable) ∧
      ¬ Answers (load (manifestTree [0xff]) manifestPath) := by
  refine ⟨?_, ?_⟩ <;> decide +kernel

end PackageAudit.Project.Manifest
