import Std.Data.HashMap.Lemmas
import PackageAudit.Proofs.Syntax.Faults
import PackageAudit.Script.Reader

namespace PackageAudit.Script

open Syntax

class HasNodes (α : Type) where
  nodesIn : α → List Node

instance : HasNodes Node := ⟨fun n ↦ [n]⟩

instance : HasNodes (List Node) := ⟨id⟩

-- Answers of all other types hold no trees.
instance (priority := low) noNodes (α : Type) : HasNodes α := ⟨fun _ ↦ []⟩

/-- All trees of an answer have exact flags. -/
class Flagged {α : Type} [HasNodes α] (a : α) : Prop where
  flagsFaults : ∀ n ∈ HasNodes.nodesIn a, n.FlagsFaults

section Flagged

variable {n : Node} {ns ms : List Node}

theorem flagged_node_iff : Flagged n ↔ n.FlagsFaults :=
  ⟨fun h ↦ h.flagsFaults n (List.mem_singleton_self n),
    fun h ↦ ⟨fun _ hm ↦ List.mem_singleton.mp hm ▸ h⟩⟩

theorem flagged_nodes_iff : Flagged ns ↔ ∀ n ∈ ns, n.FlagsFaults :=
  ⟨fun h ↦ h.flagsFaults, fun h ↦ ⟨h⟩⟩

theorem Flagged.node [h : Flagged n] : n.FlagsFaults := flagged_node_iff.mp h

theorem Flagged.nodes [h : Flagged ns] : ∀ n ∈ ns, n.FlagsFaults := flagged_nodes_iff.mp h

instance (priority := low) {α : Type} (a : α) : @Flagged α (noNodes α) a :=
  ⟨fun _ hn ↦ nomatch hn⟩

instance {α : Type} [HasNodes α] (a : {a : α // Flagged a}) : Flagged a.1 := a.2

instance : Flagged ([] : List Node) := ⟨fun _ hn ↦ nomatch hn⟩

instance [Flagged n] [Flagged ns] : Flagged (n :: ns) :=
  flagged_nodes_iff.mpr (List.forall_mem_cons.mpr ⟨Flagged.node, Flagged.nodes⟩)

instance [Flagged ns] [Flagged ms] : Flagged (ns ++ ms) :=
  flagged_nodes_iff.mpr (List.forall_mem_append.mpr ⟨Flagged.nodes, Flagged.nodes⟩)

instance [Flagged ns] : Flagged ns.dropLast :=
  flagged_nodes_iff.mpr fun n hn ↦ Flagged.nodes n (List.dropLast_subset ns hn)

instance [Flagged n] (f : Field) : Flagged (n.underField f) :=
  flagged_node_iff.mpr (Flagged.node.underField f)

instance (kind : Kind) [Flagged ns] : Flagged (Node.ofChildren kind ns) :=
  flagged_node_iff.mpr (Node.flagsFaults_ofChildren kind Flagged.nodes)

instance (kind : Kind) (named : Bool) (start stop : ℕ) :
    Flagged (Node.leaf kind named start stop) :=
  flagged_node_iff.mpr (Node.flagsFaults_leaf kind named start stop)

end Flagged

/-- All trees that readers have kept note of have exact flags. -/
def Notes.AreFlagged (notes : Notes) : Prop :=
  ∀ (key : ℕ × Phrase) (a : Passage), notes.tried[key]? = some (some a) → a.node.FlagsFaults

theorem flagsFaults_gapFrom {beforeOperand : Bool} {rest : List Char} {offset inside : ℕ}
    {found : List Node} (hfound : ∀ n ∈ found, n.FlagsFaults) :
    ∀ n ∈ (gapFrom beforeOperand rest offset inside found).1, n.FlagsFaults := by
  fun_induction gapFrom beforeOperand rest offset inside found with
  | case1 => simpa using hfound
  | case2 _ _ _ _ _ ih => exact ih hfound
  | case3 _ _ _ _ _ ih => exact ih hfound
  | case4 _ _ _ _ _ _ _ _ ih =>
    exact ih (List.forall_mem_cons.mpr ⟨Node.flagsFaults_leaf .comment true _ _, hfound⟩)
  | case5 => simpa using hfound

namespace Reader

variable {α β : Type}

/-- What the reader answers at a cursor, and the notes that it leaves. -/
def outcome (r : Reader α) (c : Cursor) (notes : Notes) : Option (α × Cursor) × Notes :=
  StateT.run (OptionT.run (StateT.run r c)) notes

/-- The reader leaves notes with exact flags, and its answers have the property. -/
def Gives (P : α → Prop) (r : Reader α) : Prop :=
  ∀ (c : Cursor) (notes : Notes), notes.AreFlagged →
    (r.outcome c notes).2.AreFlagged ∧ ∀ a ∈ (r.outcome c notes).1, P a.1

section Gives

variable {P P' : α → Prop} {Q : β → Prop} {r s : Reader α} {f : α → Reader β}

theorem outcome_bind (c : Cursor) (notes : Notes) :
    (r >>= f).outcome c notes = match r.outcome c notes with
      | (some (a, d), left) => (f a).outcome d left
      | (none, left) => (none, left) := by
  rw [outcome, StateT.run_bind, OptionT.run_bind, Option.elimM, StateT.run_bind]
  change (let x := r.outcome c notes; StateT.run (x.1.elim _ _) x.2) = _
  rcases r.outcome c notes with ⟨_ | ⟨a, d⟩, left⟩ <;> rfl

theorem outcome_orElse (c : Cursor) (notes : Notes) :
    (r <|> s).outcome c notes = match r.outcome c notes with
      | (some a, left) => (some a, left)
      | (none, left) => s.outcome c left := by
  change StateT.run (OptionT.run (r.run c <|> s.run c)) notes = _
  rw [OptionT.run_orElse, Option.elimM, StateT.run_bind]
  change (let x := r.outcome c notes; StateT.run (x.1.elim _ _) x.2) = _
  rcases r.outcome c notes with ⟨_ | a, left⟩ <;> rfl

theorem Gives.pure {a : α} (h : P a) : Gives P (Pure.pure a : Reader α) :=
  fun _ _ hnotes ↦ ⟨hnotes, fun _ hb ↦ by cases hb; exact h⟩

theorem Gives.mono (h : Gives P r) (hP : ∀ a, P a → P' a) : Gives P' r :=
  fun c notes hnotes ↦ ⟨(h c notes hnotes).1, fun a ha ↦ hP a.1 ((h c notes hnotes).2 a ha)⟩

theorem Gives.bind (hr : Gives P r) (hf : ∀ a, P a → Gives Q (f a)) : Gives Q (r >>= f) := by
  intro c notes hnotes
  obtain ⟨hleft, hanswer⟩ := hr c notes hnotes
  rw [outcome_bind]
  split
  · rename_i a d left hrun
    rw [hrun] at hleft hanswer
    exact hf a (hanswer _ rfl) d left hleft
  · rename_i left hrun
    rw [hrun] at hleft
    exact ⟨hleft, fun _ hb ↦ nomatch hb⟩

theorem Gives.orElse (hr : Gives P r) (hs : Gives P s) : Gives P (r <|> s) := by
  intro c notes hnotes
  obtain ⟨hleft, hanswer⟩ := hr c notes hnotes
  rw [outcome_orElse]
  split
  · rename_i a left hrun
    rw [hrun] at hleft hanswer
    exact ⟨hleft, hanswer⟩
  · rename_i left hrun
    rw [hrun] at hleft
    exact hs c left hleft

end Gives

/-- All trees that the reader answers with have exact flags. -/
class KeepsFlags [HasNodes α] (r : Reader α) : Prop where
  gives : Gives (fun a ↦ Flagged a) r

section KeepsFlags

variable [HasNodes α] [HasNodes β] {r s : Reader α} {f : α → Reader β}

omit [HasNodes β] in
theorem KeepsFlags.gives_bind {Q : β → Prop} [h : r.KeepsFlags]
    (hf : ∀ a : {a : α // Flagged a}, Gives Q (f a.1)) : Gives Q (r >>= f) :=
  h.gives.bind fun a ha ↦ hf ⟨a, ha⟩

-- The answer comes with its property, so that the search has it where it goes on with the answer.
theorem KeepsFlags.bind [r.KeepsFlags] (hf : ∀ a : {a : α // Flagged a}, (f a.1).KeepsFlags) :
    (r >>= f).KeepsFlags :=
  ⟨KeepsFlags.gives_bind fun a ↦ (hf a).gives⟩

instance [r.KeepsFlags] [hf : ∀ a : {a : α // Flagged a}, (f a.1).KeepsFlags] :
    (r >>= f).KeepsFlags := .bind hf

instance (a : α) [h : Flagged a] : (pure a : Reader α).KeepsFlags := ⟨.pure h⟩

instance [hr : r.KeepsFlags] [hs : s.KeepsFlags] : (r <|> s).KeepsFlags :=
  ⟨hr.gives.orElse hs.gives⟩

instance : (failure : Reader α).KeepsFlags := ⟨fun _ _ hnotes ↦ ⟨hnotes, fun _ ha ↦ nomatch ha⟩⟩

instance (p : Prop) [Decidable p] [hr : r.KeepsFlags] [hs : s.KeepsFlags] :
    (if p then r else s).KeepsFlags := by
  split
  · exact hr
  · exact hs

instance : (get : Reader Cursor).KeepsFlags :=
  ⟨fun _ _ hnotes ↦ ⟨hnotes, fun _ _ ↦ inferInstance⟩⟩

instance (c : Cursor) : (set c : Reader PUnit).KeepsFlags :=
  ⟨fun _ _ hnotes ↦ ⟨hnotes, fun _ _ ↦ inferInstance⟩⟩

instance (f : Cursor → Cursor) : (modify f : Reader PUnit).KeepsFlags :=
  ⟨fun _ _ hnotes ↦ ⟨hnotes, fun _ _ ↦ inferInstance⟩⟩

instance (f : Reach → Reach) :
    (modifyThe Notes fun n ↦ { n with reach := f n.reach } : Reader PUnit).KeepsFlags :=
  ⟨fun _ _ hnotes ↦ ⟨hnotes, fun _ _ ↦ inferInstance⟩⟩

instance : rest.KeepsFlags := by unfold rest; infer_instance

instance : place.KeepsFlags := by unfold place; infer_instance

instance (n : ℕ) : (skip n).KeepsFlags := by unfold skip; infer_instance

instance : seek.KeepsFlags := by unfold seek; infer_instance

instance (b : Bool) : (require b).KeepsFlags := by unfold require; infer_instance

theorem KeepsFlags.look (h : r.KeepsFlags) : (look r).KeepsFlags := by
  unfold Reader.look; infer_instance

instance [h : r.KeepsFlags] : (look r).KeepsFlags := h.look

instance [r.KeepsFlags] : (discard r : Reader PUnit).KeepsFlags :=
  inferInstanceAs (r >>= fun _ ↦ pure PUnit.unit : Reader PUnit).KeepsFlags

instance (from_ : ℕ) (form : Part.Form) : (gather from_ form).KeepsFlags := by
  unfold gather; infer_instance

end KeepsFlags

section Trees

variable {r : Reader (List Node)}

instance [r.KeepsFlags] : (together r).KeepsFlags := by unfold together; infer_instance

instance (kind : Kind) (ns : List Node) [Flagged ns] : (join kind ns).KeepsFlags := by
  unfold join; infer_instance

instance (kind : Kind) (named : Bool) (n : ℕ) : (leaf kind named n).KeepsFlags := by
  unfold leaf; infer_instance

instance (n : ℕ) : (comment n).KeepsFlags := by unfold comment; infer_instance

theorem KeepsFlags.phrase (kind : Kind) (h : r.KeepsFlags) : (phrase kind r).KeepsFlags := by
  unfold Reader.phrase; infer_instance

instance (kind : Kind) [h : r.KeepsFlags] : (phrase kind r).KeepsFlags := h.phrase kind

instance [r.KeepsFlags] : (option r).KeepsFlags := by unfold option; infer_instance

instance [r.KeepsFlags] (from_ bound : ℕ) : (many.go r from_ bound).KeepsFlags := by
  induction bound with
  | zero => unfold many.go; infer_instance
  | succ bound ih => unfold many.go; infer_instance

instance [r.KeepsFlags] (bound : ℕ) : (many r bound).KeepsFlags := by
  unfold many; infer_instance

instance {step : Node → Reader Node} [hstep : ∀ n : {n : Node // Flagged n}, (step n).KeepsFlags]
    (bound : ℕ) (n : Node) [h : Flagged n] : (extend step bound n).KeepsFlags := by
  induction bound generalizing n with
  | zero => unfold extend; infer_instance
  | succ bound ih =>
    have hn : (step n).KeepsFlags := hstep ⟨n, h⟩
    unfold extend
    infer_instance

instance (f : Field) [r.KeepsFlags] : (underField f r).KeepsFlags := by
  unfold underField
  refine .bind fun ns ↦ ?_
  split
  · rename_i n hn
    have h : Flagged n := flagged_node_iff.mpr (Flagged.nodes n (List.mem_of_getLast? hn))
    infer_instance
  · infer_instance

instance (beforeOperand : Bool) : (passGap beforeOperand).KeepsFlags := by
  unfold passGap
  refine .bind fun _ ↦ ⟨fun c notes hnotes ↦ ⟨hnotes, fun a ha ↦ ?_⟩⟩
  cases ha
  exact flagged_nodes_iff.mpr (flagsFaults_gapFrom fun _ hn ↦ nomatch hn)

instance : gap.KeepsFlags := by unfold gap; infer_instance

instance : operandGap.KeepsFlags := by unfold operandGap; infer_instance

instance [r.KeepsFlags] : (behind r).KeepsFlags := by unfold behind; infer_instance

instance {r : Reader Node} [r.KeepsFlags] : (behindOperandGap r).KeepsFlags := by
  unfold behindOperandGap; infer_instance

end Trees

section Tokens

instance : peek.KeepsFlags := by unfold peek; infer_instance

instance : peekWord.KeepsFlags := by unfold peekWord; infer_instance

instance : peekNext.KeepsFlags := by unfold peekNext; infer_instance

instance : peekNextWord.KeepsFlags := by unfold peekNextWord; infer_instance

variable (text : String)

instance : (token text).KeepsFlags := by unfold token; infer_instance

instance : (piece text).KeepsFlags := by unfold piece; infer_instance

instance : (keyword text).KeepsFlags := by unfold keyword; infer_instance

instance (length : ℕ) : (opening text length).KeepsFlags := by unfold opening; infer_instance

instance : (nextToken text).KeepsFlags := by unfold nextToken; infer_instance

instance : (nextPiece text).KeepsFlags := by unfold nextPiece; infer_instance

instance : (nextKeyword text).KeepsFlags := by unfold nextKeyword; infer_instance

end Tokens

section Trying

theorem gives_notes : Gives Notes.AreFlagged (getThe Notes : Reader Notes) := by
  intro c notes hnotes
  refine ⟨hnotes, fun a ha ↦ ?_⟩
  cases ha
  exact hnotes

theorem keepsFlags_note (place : ℕ) (p : Phrase) {answer : Option Passage}
    (h : ∀ a ∈ answer, a.node.FlagsFaults) : (note place p answer).KeepsFlags := by
  refine ⟨fun c notes hnotes ↦ ⟨fun key a ha ↦ ?_, fun _ _ ↦ inferInstance⟩⟩
  change (notes.tried.insert (place, p) answer)[key]? = _ at ha
  rw [Std.HashMap.getElem?_insert] at ha
  split at ha
  · exact h a (Option.some.inj ha)
  · exact hnotes key a ha

instance (p : Phrase) {r : Reader Node} [r.KeepsFlags] : (trying p r).KeepsFlags := by
  unfold trying
  refine .bind fun c ↦ ⟨gives_notes.bind fun notes hnotes ↦ ?_⟩
  split
  · rename_i a ha
    have hnode : Flagged a.node := flagged_node_iff.mpr (hnotes _ a ha)
    exact KeepsFlags.gives
  · exact KeepsFlags.gives
  · have hnone : (note c.1.offset p none).KeepsFlags :=
      keepsFlags_note c.1.offset p fun _ ha ↦ nomatch ha
    have hsome (n : {n : Node // Flagged n}) (parts : List Part) (d : Cursor) :
        (note c.1.offset p (some ⟨n, parts, d.rest, d.offset⟩)).KeepsFlags := by
      refine keepsFlags_note c.1.offset p fun a ha ↦ ?_
      cases ha
      exact flagged_node_iff.mp n.2
    exact KeepsFlags.gives

end Trying

end Reader

section Statements

open Reader

class Kit.KeepsFlags (k : Kit) : Prop where
  read : ∀ p, (k.read p).KeepsFlags

variable (k : Kit)

instance [h : k.KeepsFlags] (p : Phrase) : (k.read p).KeepsFlags := h.read p

instance [k.KeepsFlags] (p : Phrase) : (k.next p).KeepsFlags := by unfold Kit.next; infer_instance

instance (s : Semicolon.Setting) : (endsHere k s).KeepsFlags := by
  unfold endsHere; infer_instance

instance (bound : ℕ) (found : List Node) [Flagged found] :
    (onwardGap.onward k bound found).KeepsFlags := by
  induction bound generalizing found with
  | zero => unfold onwardGap.onward; infer_instance
  | succ bound ih =>
    unfold onwardGap.onward
    iterate 6 refine .bind fun _ ↦ ?_
    split <;> infer_instance

instance (c : Context) : (onwardGap k c).KeepsFlags := by unfold onwardGap; infer_instance

instance (s : Semicolon.Setting) (bound : ℕ) (found : List Node) [Flagged found] :
    (terminator.search k s bound found).KeepsFlags := by
  induction bound generalizing found with
  | zero => unfold terminator.search; infer_instance
  | succ bound ih =>
    unfold terminator.search
    refine .bind fun _ ↦ ?_
    split
    · infer_instance
    iterate 4 refine .bind fun _ ↦ ?_
    split <;> infer_instance

instance (s : Semicolon.Setting) : (terminator k s).KeepsFlags := by
  unfold terminator; infer_instance

end Statements

end PackageAudit.Script
