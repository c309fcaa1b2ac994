import Mathlib.Data.List.Basic
import PackageAudit.Usage.Extraction

namespace PackageAudit.Usage

open Syntax

variable (source : Text)

/-- A string, or a template that substitutes nothing, and what stands between its marks. -/
inductive Literal : Node → Text → Prop
  | string {n : Node} : n.kind = .string → Literal n ((n.text source).drop 1).dropLast
  | template {n : Node} : n.kind = .templateString →
      (∀ c ∈ n.namedChildren, c.kind ≠ .templateSubstitution) →
      Literal n ((n.text source).drop 1).dropLast

/-- A module is named by an import statement, by an export statement with a source, or by a call of
a loader whose first argument is a literal. -/
inductive NamesModule : Place → Text → Prop
  | importStatement {p : Place} {module : Node} {specifier : Text} :
      p.node.kind = .importStatement → importedModule? p.node = some module →
      Literal source module specifier → NamesModule p specifier
  | exportStatement {p : Place} {module : Node} {specifier : Text} :
      p.node.kind = .exportStatement → p.node.child? .source = some module →
      Literal source module specifier → NamesModule p specifier
  | call {p : Place} {callee arguments argument : Node} {specifier : Text} :
      p.node.kind = .callExpression → p.node.child? .function = some callee →
      isLoader source callee → p.node.child? .arguments = some arguments →
      arguments.namedChildren.head? = some argument → Literal source argument specifier →
      NamesModule p specifier

theorem literal?_eq_some_iff {n : Node} {t : Text} :
    literal? source n = some t ↔ Literal source n t := by
  constructor
  · intro h
    unfold literal? at h
    split at h
    · rename_i hk
      cases h
      exact .string hk
    · rename_i hk
      split at h
      · cases h
      · rename_i hs
        cases h
        refine .template hk fun c hc he ↦ hs ?_
        exact List.any_eq_true.mpr ⟨c, hc, decide_eq_true he⟩
    · cases h
  · intro h
    cases h with
    | string hk => simp only [literal?, hk, literal?.content]
    | template hk hs =>
      have hany : (n.namedChildren.any fun c ↦ c.kind = .templateSubstitution) = false := by
        simpa using hs
      simp only [literal?, hk, hany, literal?.content]
      rfl

theorem ofImportStatement?_specifier (n : Node) :
    (ofImportStatement? source n).map (·.specifier) =
      (importedModule? n).bind (literal? source) := by
  unfold ofImportStatement?
  cases (importedModule? n).bind (literal? source) <;> rfl

theorem ofExportStatement?_specifier (n : Node) :
    (ofExportStatement? source n).map (·.specifier) =
      (n.child? .source).bind (literal? source) := by
  unfold ofExportStatement?
  cases (n.child? .source).bind (literal? source) <;> rfl

theorem ofCall?_specifier (p : Place) :
    (ofCall? source p).map (·.specifier) = loaded? source p.node := by
  unfold ofCall?
  cases loaded? source p.node with
  | none => rfl
  | some specifier => cases initialized? source p <;> rfl

theorem loaded?_eq_some_iff {call : Node} {specifier : Text} :
    loaded? source call = some specifier ↔
      ∃ callee, (call.child? .function = some callee ∧ isLoader source callee) ∧
        ∃ arguments, call.child? .arguments = some arguments ∧
          ∃ argument, arguments.namedChildren.head? = some argument ∧
            literal? source argument = some specifier := by
  simp only [loaded?, Option.bind_eq_bind, Option.bind_eq_some_iff, Option.filter_eq_some_iff]

theorem import?_specifier_eq_some_iff {p : Place} {specifier : Text} :
    (import? source p).map (·.specifier) = some specifier ↔ NamesModule source p specifier := by
  constructor
  · intro h
    unfold import? at h
    split at h
    · rename_i hk
      rw [ofImportStatement?_specifier] at h
      obtain ⟨module, hm, hl⟩ := Option.bind_eq_some_iff.mp h
      exact .importStatement hk hm ((literal?_eq_some_iff source).mp hl)
    · rename_i hk
      rw [ofExportStatement?_specifier] at h
      obtain ⟨module, hm, hl⟩ := Option.bind_eq_some_iff.mp h
      exact .exportStatement hk hm ((literal?_eq_some_iff source).mp hl)
    · rename_i hk
      rw [ofCall?_specifier, loaded?_eq_some_iff] at h
      obtain ⟨callee, ⟨hc, hl⟩, arguments, ha, argument, hh, ht⟩ := h
      exact .call hk hc hl ha hh ((literal?_eq_some_iff source).mp ht)
    · cases h
  · intro h
    cases h with
    | importStatement hk hm hl =>
      simp only [import?, hk, ofImportStatement?_specifier, hm, Option.bind_some]
      exact (literal?_eq_some_iff source).mpr hl
    | exportStatement hk hm hl =>
      simp only [import?, hk, ofExportStatement?_specifier, hm, Option.bind_some]
      exact (literal?_eq_some_iff source).mpr hl
    | call hk hc hl ha hh ht =>
      simp only [import?, hk, ofCall?_specifier]
      exact (loaded?_eq_some_iff source).mpr
        ⟨_, ⟨hc, hl⟩, _, ha, _, hh, (literal?_eq_some_iff source).mpr ht⟩

/-- A receiver starts from an identifier through member accesses, brackets and assertions. -/
inductive StartsFrom : Node → Node → Prop
  | identifier {n : Node} : n.kind = .identifier → StartsFrom n n
  | member {n object root : Node} : n.kind = .memberExpression → n.child? .object = some object →
      StartsFrom object root → StartsFrom n root
  | enclosed {n inner root : Node} :
      n.kind = .nonNullExpression ∨ n.kind = .parenthesizedExpression →
      n.namedChildren.head? = some inner → StartsFrom inner root → StartsFrom n root

theorem receiverStep?_startsFrom {n m root : Node} (h : receiverStep? n = some m)
    (hr : StartsFrom m root) : StartsFrom n root := by
  unfold receiverStep? at h
  split at h
  · rename_i hk
    exact .member hk h hr
  · rename_i hk
    exact .enclosed (.inl hk) h hr
  · rename_i hk
    exact .enclosed (.inr hk) h hr
  · cases h

theorem size_le_sizeOfAll {n : Node} {ns : List Node} (h : n ∈ ns) : n.size ≤ sizeOfAll ns := by
  induction ns with
  | nil => cases h
  | cons m ns ih =>
    rw [sizeOfAll]
    cases h with
    | head => omega
    | tail _ h => have hn := ih h; omega

theorem size_lt_of_mem_children {n c : Node} (h : c ∈ n.children) : c.size < n.size := by
  obtain ⟨kind, named, field, start, stop, missing, faulty, children⟩ := n
  have hle := size_le_sizeOfAll h
  rw [Node.size]
  exact Nat.lt_succ_of_le hle

theorem receiverStep?_size {n m : Node} (h : receiverStep? n = some m) : m.size < n.size := by
  apply size_lt_of_mem_children
  unfold receiverStep? at h
  split at h
  · exact List.mem_of_find?_eq_some h
  · exact (List.mem_filter.mp (List.mem_of_mem_head? h)).1
  · exact (List.mem_filter.mp (List.mem_of_mem_head? h)).1
  · cases h

theorem startsFrom_of_rootWithin {steps : Nat} {n root : Node}
    (h : rootWithin steps n = some root) : StartsFrom n root := by
  induction steps generalizing n with
  | zero => cases h
  | succ steps ih =>
    rw [rootWithin] at h
    split at h
    · rename_i hk
      cases h
      exact .identifier hk
    · obtain ⟨m, hm, hr⟩ := Option.bind_eq_some_iff.mp h
      exact receiverStep?_startsFrom hm (ih hr)

theorem rootWithin_of_step {steps : Nat} {n m root : Node} (hk : n.kind ≠ .identifier)
    (hs : receiverStep? n = some m) (hr : rootWithin steps m = some root) :
    rootWithin (steps + 1) n = some root := by
  rw [rootWithin, if_neg hk, hs, Option.bind_some, hr]

/-- Every step goes to a smaller node, so that as many steps as the node has parts are enough. -/
theorem rootWithin_of_startsFrom {n root : Node} (h : StartsFrom n root) (steps : Nat)
    (hs : n.size ≤ steps) : rootWithin steps n = some root := by
  induction h generalizing steps with
  | @identifier n hk =>
    obtain ⟨kind, named, field, start, stop, missing, faulty, children⟩ := n
    cases steps with
    | zero => rw [Node.size] at hs; omega
    | succ steps => rw [rootWithin, if_pos hk]
  | @member n object root hk hm _ ih =>
    have hstep : receiverStep? n = some object := by simp only [receiverStep?, hk, hm]
    have hlt := receiverStep?_size hstep
    cases steps with
    | zero => omega
    | succ steps => exact rootWithin_of_step (by simp [hk]) hstep (ih steps (by omega))
  | @enclosed n inner root hk hm _ ih =>
    have hstep : receiverStep? n = some inner := by
      cases hk with
      | inl hk => simp only [receiverStep?, hk, hm]
      | inr hk => simp only [receiverStep?, hk, hm]
    have hlt := receiverStep?_size hstep
    cases steps with
    | zero => omega
    | succ steps =>
      exact rootWithin_of_step (by rcases hk with hk | hk <;> simp [hk]) hstep
        (ih steps (by omega))

theorem root?_eq_some_iff {n root : Node} : root? n = some root ↔ StartsFrom n root :=
  ⟨startsFrom_of_rootWithin, fun h ↦ rootWithin_of_startsFrom h n.size (Nat.le_refl _)⟩

def HasRoot (call : Node) (name : Text) : Prop :=
  ∃ callee object root, call.child? .function = some callee ∧
    callee.child? .object = some object ∧ StartsFrom object root ∧
    root.text source = name ∧ name ≠ []

theorem rootName?_eq_some_iff {call : Node} {name : Text} :
    rootName? source call = some name ↔ HasRoot source call name := by
  simp only [rootName?, HasRoot, Option.filter_eq_some_iff, Option.map_eq_some_iff,
    Option.bind_eq_some_iff, root?_eq_some_iff, Bool.not_eq_true', List.isEmpty_eq_false_iff]
  constructor
  · rintro ⟨⟨root, ⟨object, ⟨callee, hf, ho⟩, hr⟩, ht⟩, hn⟩
    exact ⟨callee, object, root, hf, ho, hr, ht, hn⟩
  · rintro ⟨callee, object, root, hf, ho, hr, ht, hn⟩
    exact ⟨⟨root, ⟨object, ⟨callee, hf, ho⟩, hr⟩, ht⟩, hn⟩

section Initializers

def behindAwait (call : Place) : Place :=
  (call.parent?.filter (·.node.kind = .awaitExpression)).getD call

def propertyOf? (value : Place) : Option (Place × Text) :=
  (value.parent?.filter fun access ↦
    access.node.kind = .memberExpression && value.isFieldOfParent .object).bind fun access ↦
      (access.node.child? .property).map fun property ↦ (access, property.text source)

def declaratorOf? (value : Place) : Option Place :=
  value.parent?.filter fun d ↦ d.node.kind = .variableDeclarator && value.isFieldOfParent .value

def targetNames (declarator : Place) (member : Option Text) : Names :=
  ((declarator.node.child? .name).map (Names.ofTarget source member)).getD {}

theorem bind_guard {α β : Type} (o : Option α) (p : α → Bool) (next : α → Option β) :
    (do let a ← o; guard (p a); next a) = (o.filter p).bind next := by
  cases o with
  | none => rfl
  | some a =>
    change (guard (p a = true) >>= fun _ ↦ next a) = (if p a then some a else none).bind next
    cases p a <;> rfl

theorem initialized?_eq (call : Place) :
    initialized? source call =
      let value := behindAwait call
      let access := propertyOf? source value
      (declaratorOf? ((access.map (·.1)).getD value)).map fun d ↦
        (d, targetNames source d (access.map (·.2))) := by
  have haccess (value : Place) : (do
      let m ← value.parent?
      guard (m.node.kind = .memberExpression && value.isFieldOfParent .object)
      let property ← m.node.child? .property
      return (m, property.text source)) = propertyOf? source value := by
    rw [propertyOf?, bind_guard]
    congr 1
    funext m
    cases m.node.child? .property <;> rfl
  unfold initialized?
  dsimp only
  rw [haccess, bind_guard]
  exact Option.map_eq_bind.symm

structure IsValueOf (value declarator : Place) : Prop where
  parent : value.parent? = some declarator
  kind : declarator.node.kind = .variableDeclarator
  field : value.isFieldOfParent .value = true

/-- Where the value of a call may reach a declarator: at the call, at what awaits it, and at a
property of either. -/
inductive Reaches (call : Place) : Place → Option Text → Prop
  | call : Reaches call call none
  | awaited {above : Place} : call.parent? = some above → above.node.kind = .awaitExpression →
      Reaches call above none
  | property {p access : Place} {property : Node} : Reaches call p none →
      p.parent? = some access → access.node.kind = .memberExpression →
      p.isFieldOfParent .object = true → access.node.child? .property = some property →
      Reaches call access (some (property.text source))

theorem declaratorOf?_eq_some_iff {value d : Place} :
    declaratorOf? value = some d ↔ IsValueOf value d := by
  rw [declaratorOf?, Option.filter_eq_some_iff, Bool.and_eq_true, decide_eq_true_eq]
  exact ⟨fun h ↦ ⟨h.1, h.2.1, h.2.2⟩, fun h ↦ ⟨h.parent, h.kind, h.field⟩⟩

theorem behindAwait_reaches (call : Place) : Reaches source call (behindAwait call) none := by
  unfold behindAwait
  cases h : call.parent?.filter (·.node.kind = .awaitExpression) with
  | none => exact .call
  | some above =>
    obtain ⟨hp, hk⟩ := Option.filter_eq_some_iff.mp h
    exact .awaited hp (of_decide_eq_true hk)

theorem behindAwait_eq {call p above : Place} (h : Reaches source call p none)
    (hp : p.parent? = some above) (hk : above.node.kind ≠ .awaitExpression) :
    behindAwait call = p := by
  cases h with
  | call => simp [behindAwait, hp, Option.filter_some, hk]
  | awaited ha hka => simp [behindAwait, ha, Option.filter_some, hka]

theorem propertyOf?_reaches {call p access : Place} {member : Text}
    (h : Reaches source call p none) (hm : propertyOf? source p = some (access, member)) :
    Reaches source call access (some member) := by
  obtain ⟨m, hm, hp⟩ := Option.bind_eq_some_iff.mp hm
  obtain ⟨hparent, hk⟩ := Option.filter_eq_some_iff.mp hm
  obtain ⟨property, hproperty, heq⟩ := Option.map_eq_some_iff.mp hp
  rw [Bool.and_eq_true, decide_eq_true_eq] at hk
  cases heq
  exact .property h hparent hk.1 hk.2 hproperty

theorem initialized?_eq_some_iff {call d : Place} {names : Names} :
    initialized? source call = some (d, names) ↔
      ∃ value member, Reaches source call value member ∧ IsValueOf value d ∧
        names = targetNames source d member := by
  rw [initialized?_eq]
  constructor
  · intro h
    obtain ⟨d', hd, heq⟩ := Option.map_eq_some_iff.mp h
    cases heq
    have hreach := behindAwait_reaches source call
    cases hm : propertyOf? source (behindAwait call) with
    | none =>
      rw [hm] at hd
      exact ⟨_, none, hreach, declaratorOf?_eq_some_iff.mp hd, rfl⟩
    | some access =>
      rw [hm] at hd
      exact ⟨_, _, propertyOf?_reaches source hreach hm, declaratorOf?_eq_some_iff.mp hd, rfl⟩
  · rintro ⟨value, member, hreach, hvalue, rfl⟩
    have hawait : d.node.kind ≠ .awaitExpression := by simp [hvalue.kind]
    have hd := declaratorOf?_eq_some_iff.mpr hvalue
    cases member with
    | none =>
      have hplain : propertyOf? source value = none := by
        simp [propertyOf?, hvalue.parent, hvalue.kind]
      simp [behindAwait_eq source hreach hvalue.parent hawait, hplain, hd]
    | some member =>
      cases hreach with
      | property hp hparent hk hobject hproperty =>
        have haccess : value.node.kind ≠ .awaitExpression := by simp [hk]
        simp [behindAwait_eq source hp hparent haccess, propertyOf?, hparent, Option.filter_some,
          hk, hobject, hproperty, hd]

end Initializers

end PackageAudit.Usage
