import PackageAudit.CommandLine.Run
import PackageAudit.Proofs.File.Written
import PackageAudit.Proofs.Json.RoundTrip

namespace PackageAudit

namespace Json

def isLegible (c : CodePoint) : Bool :=
  c = .char '\n' || (32 ≤ c.toNat && c.toNat < 127)

theorem isLegible_hexDigit (n : ℕ) : isLegible (Text.hexDigit n) = true := by
  have hall : ∀ k < 16, isLegible (CodePoint.ofNat (if k < 10 then 0x30 + k else 0x57 + k)) =
      true := by decide
  exact hall (n % 16) (Nat.mod_lt n (by decide))

theorem all_isLegible_hexadecimal (width n : ℕ) :
    (Text.hexadecimal width n).all isLegible = true := by
  induction width generalizing n with
  | zero => rfl
  | succ width ih =>
    rw [Text.hexadecimal, List.all_append, ih, Bool.true_and]
    simp [isLegible_hexDigit]

theorem all_isLegible_utf16Escapes (n : ℕ) : (utf16Escapes n).all isLegible = true := by
  have hu : (Text.ofString "\\u").all isLegible = true := by decide
  rw [utf16Escapes]
  split
  · rw [List.all_append, hu, all_isLegible_hexadecimal]
    rfl
  · simp only [List.all_append, hu, all_isLegible_hexadecimal, Bool.and_self]

theorem all_isLegible_escapeCodePoint (c : CodePoint) :
    (escapeCodePoint .ascii c).all isLegible = true := by
  have hsimple : ∀ t ∈ ["\\\"", "\\\\", "\\n", "\\r", "\\t", "\\f", "\\b"],
      (Text.ofString t).all isLegible = true := by decide
  unfold escapeCodePoint
  dsimp only
  repeat' split
  all_goals try exact hsimple _ (by simp)
  · exact all_isLegible_utf16Escapes _
  · rename_i hself
    simp only [Bool.or_eq_true, Bool.and_eq_true, decide_eq_true_eq, true_and, not_or] at hself
    have hlegible : isLegible c = true := by
      simp [isLegible]
      omega
    rw [List.all_cons, hlegible]
    rfl

theorem all_isLegible_writeString (t : Text) : (writeString .ascii t).all isLegible = true := by
  have hquote : isLegible (.char '"') = true := by decide
  rw [writeString_eq, List.all_cons, List.all_append, List.all_flatMap, hquote]
  simp [all_isLegible_escapeCodePoint, hquote]

theorem all_isLegible_newLine (level : ℕ) : (newLine level).all isLegible = true := by
  have hend : isLegible (.char '\n') = true := by decide
  have hspace : isLegible (.char ' ') = true := by decide
  simp [newLine_eq, hend, hspace]

theorem all_isLegible_writeInteger (n : ℤ) : (writeInteger n).all isLegible = true := by
  have hdigits : (Text.ofChars (Nat.toDigits 10 n.natAbs)).all isLegible = true := by
    rw [Text.ofChars, List.all_map, List.all_eq_true]
    intro d hd
    obtain ⟨hlow, hhigh⟩ := Char.isDigit_iff_toNat.mp (Decimal.isDigit_of_mem_toDigits hd)
    have hzero : '0'.toNat = 48 := rfl
    have hnine : '9'.toNat = 57 := rfl
    have hnat : (CodePoint.char d).toNat = d.toNat := rfl
    rw [Function.comp_apply, isLegible, Bool.or_eq_true, Bool.and_eq_true, decide_eq_true_eq,
      decide_eq_true_eq, decide_eq_true_eq]
    exact .inr ⟨by omega, by omega⟩
  rw [writeInteger_eq, List.all_append, hdigits, Bool.and_true]
  split <;> rfl

theorem all_isLegible_word {w : String} (h : w ∈ ["null", "true", "false"]) :
    (Text.ofString w).all isLegible = true := by
  have hall : ∀ w ∈ ["null", "true", "false"], (Text.ofString w).all isLegible = true := by decide
  exact hall w h

theorem all_isLegible_items {level : ℕ} {v : Value} {vs : List Value}
    (h : ∀ w ∈ v :: vs, (write .ascii (level + 1) w).all isLegible = true) :
    (write .ascii level (.array (v :: vs))).all isLegible = true := by
  obtain ⟨hv, hvs⟩ := List.forall_mem_cons.mp h
  have hitems : (writeItems .ascii (level + 1) vs).all isLegible = true := by
    rw [writeItems_eq_flatMap, List.all_flatMap, List.all_eq_true]
    intro w hw
    simp +decide [all_isLegible_newLine, hvs w hw]
  rw [write_array_cons]
  simp +decide [all_isLegible_newLine, hv, hitems]

theorem all_isLegible_members {level : ℕ} {m : Text × Value} {ms : List (Text × Value)}
    (h : ∀ n ∈ m :: ms, (write .ascii (level + 1) n.2).all isLegible = true) :
    (write .ascii level (.object (m :: ms))).all isLegible = true := by
  obtain ⟨hm, hms⟩ := List.forall_mem_cons.mp h
  have hmembers : (writeMembers .ascii (level + 1) ms).all isLegible = true := by
    rw [writeMembers_eq_flatMap, List.all_flatMap, List.all_eq_true]
    intro n hn
    simp +decide [all_isLegible_newLine, all_isLegible_writeString, hms n hn]
  rw [write_object_cons, writeFrom]
  simp +decide [all_isLegible_newLine, all_isLegible_writeString, hm, hmembers]

theorem all_isLegible_write {depth : ℕ} {v : Value} (h : v.IsWritable .ascii depth) (level : ℕ) :
    (write .ascii level v).all isLegible = true := by
  induction h generalizing level with
  | null => exact all_isLegible_word (by simp)
  | bool b => cases b <;> exact all_isLegible_word (by simp)
  | integer => exact all_isLegible_writeInteger _
  | string => exact all_isLegible_writeString _
  | @array _ vs _ ih =>
    cases vs with
    | nil => rfl
    | cons v vs => exact all_isLegible_items fun w hw ↦ ih w hw (level + 1)
  | @object _ ms _ _ _ ih =>
    cases ms with
    | nil => rfl
    | cons m ms => exact all_isLegible_members fun n hn ↦ ih n hn (level + 1)

end Json

section Files

open Json (Value isLegible depthLimit)
open Project
open CommandLine (Session State writeText readResults)

variable {t : Text} {path : Path}

theorem exists_char_of_isLegible {c : CodePoint} (h : isLegible c = true) :
    ∃ a : Char, c = .char a ∧ a ≠ '\r' := by
  simp only [isLegible, Bool.or_eq_true, Bool.and_eq_true, decide_eq_true_eq] at h
  rcases h with rfl | ⟨hlow, hhigh⟩
  · exact ⟨'\n', rfl, by decide⟩
  · cases c with
    | surrogate s =>
      have hs : (CodePoint.surrogate s).toNat = 0xD800 + s := rfl
      omega
    | char a =>
      refine ⟨a, rfl, ?_⟩
      rintro rfl
      revert hlow
      decide

theorem readText_of_legible {tree tree' : Tree} (ht : t.all isLegible = true)
    (h : tree.write path (Encoding.encode (t.filterMap CodePoint.char?)) = .ok tree') :
    ∃ cs, tree'.readText path = .ok cs ∧ Text.ofChars cs = t := by
  obtain ⟨cs, rfl, hline⟩ : ∃ cs, t = Text.ofChars cs ∧ '\r' ∉ cs := by
    clear h
    induction t with
    | nil => exact ⟨[], rfl, List.not_mem_nil⟩
    | cons c t ih =>
      rw [List.all_cons, Bool.and_eq_true] at ht
      obtain ⟨a, rfl, hreturn⟩ := exists_char_of_isLegible ht.1
      obtain ⟨cs, rfl, hline⟩ := ih ht.2
      refine ⟨a :: cs, rfl, ?_⟩
      rw [List.mem_cons, not_or]
      exact ⟨hreturn.symm, hline⟩
  have hchars : (Text.ofChars cs).filterMap CodePoint.char? = cs := by
    rw [Text.ofChars, List.filterMap_map]
    exact List.filterMap_some
  rw [hchars] at h
  exact ⟨cs, Tree.readText_of_write hline h, rfl⟩

theorem write_of_writeText {s s' : State} (h : writeText path t s = (.ok (), s')) :
    s.tree.write path (Encoding.encode (t.filterMap CodePoint.char?)) = .ok s'.tree := by
  have hrun : writeText path t s = (do
      let tree ← Session.attempt (s.tree.write path (Encoding.encode (t.filterMap CodePoint.char?)))
      modify fun s ↦ { s with tree := tree } : Session Unit) s := rfl
  rw [h] at hrun
  cases hw : s.tree.write path (Encoding.encode (t.filterMap CodePoint.char?)) with
  | error b =>
    rw [hw] at hrun
    cases (Prod.mk.inj hrun).1
  | ok tree =>
    rw [hw] at hrun
    rw [(Prod.mk.inj hrun).2]

theorem readResults_of_legible {v : Value} {s s' : State} (ht : t.all isLegible = true)
    (hparse : Json.parse t = .ok v) (h : writeText path t s = (.ok (), s')) :
    readResults path s' = (.ok v, s') := by
  obtain ⟨cs, hcs, rfl⟩ := readText_of_legible ht (write_of_writeText h)
  have hdocument : Json.readDocument (Text.ofChars cs) = .ok v := by rw [Json.readDocument, hparse]
  have htree : Session.tree.run.run s' = pure (.ok s'.tree, s') := rfl
  have hattempt : (Session.attempt (s'.tree.readText path)).run.run s' = pure (.ok cs, s') := by
    rw [hcs]
    rfl
  change (readResults path).run.run s' = _
  simp only [readResults, ExceptT.run_bind, StateT.run_bind, htree, hattempt, pure_bind, hdocument]
  rfl

theorem load_of_legible {ms : List (Text × Value)} {s s' : State} (ht : t.all isLegible = true)
    (hparse : Json.parse t = .ok (.object ms)) (h : writeText path t s = (.ok (), s')) :
    Project.Settings.load s'.tree path = .ok (.object ms) := by
  obtain ⟨cs, hcs, rfl⟩ := readText_of_legible ht (write_of_writeText h)
  rw [Project.Settings.load, hcs]
  simp only [Json.readDocument, hparse]

/-- Written values read back, with their keys in the same order: as text whatever the strings hold,
and through a file where no string has a high surrogate in front of a low one. -/
theorem written_values_read_back :
    (∀ v : Value, v.IsWritable .all depthLimit → Json.parse (Json.write .all 0 v) = .ok v) ∧
    (∀ v : Value, v.IsWritable .ascii depthLimit →
      Json.parse (Json.write .ascii 0 v) = .ok v ∧
      ∀ (path : Path) (s s' : State), writeText path (Json.write .ascii 0 v) s = (.ok (), s') →
        readResults path s' = (.ok v, s')) ∧
    (∀ (ms : List (Text × Value)) (path : Path) (s s' : State),
      (Value.object ms).IsWritable .ascii depthLimit →
      writeText path (Settings.write (.object ms)) s = (.ok (), s') →
      Settings.load s'.tree path = .ok (.object ms)) ∧
    (∀ (r : Results) (path : Path) (s s' : State), r.document.IsWritable .ascii depthLimit →
      writeText path r.write s = (.ok (), s') →
      readResults path s' = (.ok r.document, s')) := by
  have hfile : ∀ (v : Value), v.IsWritable .ascii depthLimit → ∀ (path : Path) (s s' : State),
      writeText path (Json.write .ascii 0 v) s = (.ok (), s') → readResults path s' = (.ok v, s') :=
    fun v hv path s s' h ↦
      readResults_of_legible (Json.all_isLegible_write hv 0) (Json.parse_write hv) h
  refine ⟨fun v hv ↦ Json.parse_write hv, fun v hv ↦ ⟨Json.parse_write hv, hfile v hv⟩, ?_, ?_⟩
  · intro ms path s s' hms h
    exact load_of_legible (Json.all_isLegible_write hms 0) (Json.parse_write hms) h
  · exact fun r path s s' hr h ↦ hfile r.document hr path s s' h

section Sample

def sampleText : Text := [.char '\x07', .char '"', .char '😀', .surrogate ⟨5, by decide⟩]

def sampleItems : List Value :=
  [.null, .bool true, .integer (-7), .string sampleText, .array [], .object []]

def sampleMembers : List (Text × Value) := [([], .array sampleItems), ("b", .bool false)]

theorem isWritable_sample (charset : Json.Charset) :
    (Value.object sampleMembers).IsWritable charset depthLimit := by
  have hkeeps : charset.Keeps sampleText ∧ charset.Keeps [] ∧ charset.Keeps (Text.ofString "b") := by
    cases charset <;> decide
  obtain ⟨hstring, hempty, hb⟩ := hkeeps
  have hitems : (Value.array sampleItems).IsWritable charset (depthLimit - 1) := by
    refine .array ?_
    simp only [sampleItems, List.forall_mem_cons]
    refine ⟨.null, .bool true, .integer (by decide), .string hstring, .array ?_,
      .object (by decide) ?_ ?_, ?_⟩ <;> simp
  refine .object (by decide) ?_ ?_
  · simp only [sampleMembers, List.forall_mem_cons]
    exact ⟨hempty, hb, by simp⟩
  · simp only [sampleMembers, List.forall_mem_cons]
    exact ⟨hitems, .bool false, by simp⟩

def emptyProject : State := ⟨⟨[], [["project"]], ["project"]⟩, 80, []⟩

def samplePath : Path := ⟨[], [[.char 'r']]⟩

def written (t : Text) : State :=
  ⟨⟨[(["project", [.char 'r']], Encoding.encode (t.filterMap CodePoint.char?))], [["project"]],
    ["project"]⟩, 80, []⟩

theorem writeText_emptyProject (t : Text) :
    writeText samplePath t emptyProject = (.ok (), written t) := rfl

theorem isWritable_noResults : (Results.document {}).IsWritable .ascii depthLimit := by
  refine .object (by decide) (by decide) fun m hm ↦ ?_
  obtain rfl := List.mem_singleton.mp hm
  exact .string (by decide)

theorem written_sample_reads_back :
    Json.parse (Json.write .all 0 (.object sampleMembers)) = .ok (.object sampleMembers) ∧
    readResults samplePath (written (Json.write .ascii 0 (.object sampleMembers))) =
      (.ok (.object sampleMembers), written (Json.write .ascii 0 (.object sampleMembers))) ∧
    Settings.load (written (Settings.write (.object sampleMembers))).tree samplePath =
      .ok (.object sampleMembers) ∧
    readResults samplePath (written (Results.write {})) =
      (.ok (Results.document {}), written (Results.write {})) := by
  obtain ⟨hall, hascii, hsettings, hresults⟩ := written_values_read_back
  exact ⟨hall _ (isWritable_sample .all),
    (hascii _ (isWritable_sample .ascii)).2 _ _ _ (writeText_emptyProject _),
    hsettings _ _ _ _ (isWritable_sample .ascii) (writeText_emptyProject _),
    hresults _ _ _ _ isWritable_noResults (writeText_emptyProject _)⟩

end Sample

end Files

end PackageAudit
