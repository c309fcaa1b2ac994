import PackageAudit.Proofs.Syntax.Comments
import PackageAudit.Proofs.Usage.Reading

namespace PackageAudit.Usage

open Syntax

variable (source : Text)

section Names

theorem kind_ne_of_isComment {n : Node} {k : Kind} (hk : k ≠ .comment)
    (h : n.isComment = true) : n.kind ≠ k :=
  fun he ↦ hk (he ▸ of_decide_eq_true h)

theorem namedOfKind_withoutComments {k : Kind} (hk : k ≠ .comment) (n : Node) :
    n.withoutComments.namedChildren.filter (·.kind = k) =
      (n.namedChildren.filter (·.kind = k)).map Node.withoutComments := by
  rw [Node.namedChildren_withoutComments, List.filter_map, List.filter_filter]
  simp only [Function.comp_def, Node.withoutComments_kind]
  congr 1
  apply List.filter_congr
  intro c _
  cases hc : c.isComment with
  | false => simp
  | true => simp [kind_ne_of_isComment hk hc]

theorem findNamed?_withoutComments {k : Kind} (hk : k ≠ .comment) (n : Node) :
    n.withoutComments.namedChildren.find? (·.kind = k) =
      (n.namedChildren.find? (·.kind = k)).map Node.withoutComments := by
  rw [← List.head?_filter, namedOfKind_withoutComments hk, List.head?_map, List.head?_filter]

@[simp]
theorem literal?_withoutComments (n : Node) :
    literal? source n.withoutComments = literal? source n := by
  have hany : n.withoutComments.namedChildren.any (·.kind = .templateSubstitution) =
      n.namedChildren.any (·.kind = .templateSubstitution) := by
    rw [Bool.eq_iff_iff, List.any_eq_true, List.any_eq_true, ← List.find?_isSome,
      ← List.find?_isSome, findNamed?_withoutComments (by decide), Option.isSome_map]
  simp only [literal?, literal?.content, Node.withoutComments_kind, Node.withoutComments_text, hany]

namespace Names

theorem all_withoutComments {f : Node → Names} (hcomment : ∀ c, c.isComment = true → f c = {})
    (hkept : ∀ c, c.hasPlainComments = true → f c.withoutComments = f c) {n : Node}
    (h : n.hasPlainComments = true) :
    all (n.withoutComments.namedChildren.map f) = all (n.namedChildren.map f) := by
  have hplain : ∀ c ∈ n.namedChildren, c.hasPlainComments = true :=
    fun c hc ↦ Node.hasPlainComments_of_mem_namedChildren h hc
  rw [Node.namedChildren_withoutComments]
  generalize n.namedChildren = children at hplain
  induction children with
  | nil => rfl
  | cons c children ih =>
    obtain ⟨hc, hrest⟩ := List.forall_mem_cons.mp hplain
    cases hk : c.isComment with
    | true =>
      rw [List.filter_cons_of_neg (by simp [hk]), ih hrest, List.map_cons, hcomment c hk]
      rfl
    | false =>
      rw [List.filter_cons_of_pos (by simp [hk]), List.map_cons, List.map_cons, List.map_cons,
        hkept c hc]
      exact congrArg (append (f c)) (ih hrest)

@[simp]
theorem bind_withoutComments (n : Node) : bind source n.withoutComments = bind source n := by
  simp only [bind, Node.withoutComments_text]

variable {n : Node} (h : n.hasPlainComments = true)

include h

theorem ofSpecifier_withoutComments :
    ofSpecifier source n.withoutComments = ofSpecifier source n := by
  simp only [ofSpecifier, Node.withoutComments_kind, Node.child?_withoutComments h]
  cases n.kind <;> cases n.child? .name <;> cases n.child? .alias <;> simp

theorem ofClausePart_withoutComments :
    ofClausePart source n.withoutComments = ofClausePart source n := by
  have hspecifiers := all_withoutComments 
    (fun c hc ↦ by simp [ofSpecifier, Node.kind_of_isComment hc])
    (fun c hc ↦ ofSpecifier_withoutComments source hc) h
  simp only [ofClausePart, Node.withoutComments_kind, bind_withoutComments,
    namedOfKind_withoutComments (by decide : Kind.identifier ≠ .comment), List.map_map,
    Function.comp_def, hspecifiers]

theorem ofClause_withoutComments :
    ofClause source n.withoutComments = ofClause source n :=
  all_withoutComments (fun c hc ↦ by simp [ofClausePart, Node.kind_of_isComment hc])
    (fun _ hc ↦ ofClausePart_withoutComments source hc) h

theorem ofMember_withoutComments :
    ofMember source n.withoutComments = ofMember source n := by
  have hvalue : ((n.child? .value).map Node.withoutComments).bind (fun v ↦
      if v.kind = .assignmentPattern then v.child? .left else some v) =
      ((n.child? .value).bind fun v ↦
        if v.kind = .assignmentPattern then v.child? .left else some v).map
          Node.withoutComments := by
    cases hv : n.child? .value with
    | none => rfl
    | some v =>
      have hplain := Node.hasPlainComments_of_child? h hv
      by_cases hk : v.kind = .assignmentPattern <;> simp [hk, Node.child?_withoutComments hplain]
  simp only [ofMember, Node.withoutComments_kind, Node.child?_withoutComments h,
    Node.withoutComments_text, hvalue, Option.filter_map, Option.map_map, Function.comp_def]
  cases n.child? .left <;> simp

theorem ofTarget_withoutComments (member : Option Text) :
    ofTarget source member n.withoutComments = ofTarget source member n := by
  have hmembers := all_withoutComments 
    (fun c hc ↦ by simp [ofMember, Node.kind_of_isComment hc])
    (fun _ hc ↦ ofMember_withoutComments source hc) h
  simp only [ofTarget, Node.withoutComments_kind, bind_withoutComments, hmembers]

end Names

end Names

def Import.withoutComments (i : Import) : Import where
  specifier := i.specifier
  mention := i.mention.withoutComments
  statement := i.statement.withoutComments
  names := i.names
  bindings := i.bindings

section Statements

variable {n : Node} (h : n.hasPlainComments = true)

include h

theorem requiredModule?_withoutComments :
    requiredModule? n.withoutComments = (requiredModule? n).map Node.withoutComments := by
  unfold requiredModule?
  rw [Node.child?_withoutComments h, findNamed?_withoutComments (by decide), Option.map_or]

theorem importedModule?_withoutComments :
    importedModule? n.withoutComments = (importedModule? n).map Node.withoutComments := by
  simp only [importedModule?, namedOfKind_withoutComments (by decide : Kind.importRequireClause ≠
    .comment), List.getLast?_map, Option.map_map, Node.child?_withoutComments h]
  cases hlast : (n.namedChildren.filter (·.kind = .importRequireClause)).getLast? with
  | none => rfl
  | some clause =>
    have hmem := List.mem_of_mem_filter (List.mem_of_getLast? hlast)
    have hplain := Node.hasPlainComments_of_mem_namedChildren h hmem
    exact requiredModule?_withoutComments hplain

theorem addClause_withoutComments (names : Names) :
    names.addClause source n.withoutComments = names.addClause source n := by
  simp only [Names.addClause, Node.withoutComments_kind, Names.ofClause_withoutComments source h,
    findNamed?_withoutComments (by decide : Kind.identifier ≠ .comment), Option.map_map,
    Function.comp_def, Node.withoutComments_text]

theorem foldl_addClause_withoutComments (names : Names) :
    n.withoutComments.namedChildren.foldl (Names.addClause source) names =
      n.namedChildren.foldl (Names.addClause source) names := by
  have hplain : ∀ c ∈ n.namedChildren, c.hasPlainComments = true :=
    fun c hc ↦ Node.hasPlainComments_of_mem_namedChildren h hc
  rw [Node.namedChildren_withoutComments]
  generalize n.namedChildren = children at hplain
  induction children generalizing names with
  | nil => rfl
  | cons c children ih =>
    obtain ⟨hc, hrest⟩ := List.forall_mem_cons.mp hplain
    cases hk : c.isComment with
    | true =>
      have hnone : names.addClause source c = names := by
        simp [Names.addClause, Node.kind_of_isComment hk]
      rw [List.filter_cons_of_neg (by simp [hk]), List.foldl_cons, hnone, ih _ hrest]
    | false =>
      rw [List.filter_cons_of_pos (by simp [hk]), List.map_cons, List.foldl_cons, List.foldl_cons,
        addClause_withoutComments source hc, ih _ hrest]

theorem ofImportStatement?_withoutComments :
    ofImportStatement? source n.withoutComments =
      (ofImportStatement? source n).map Import.withoutComments := by
  unfold ofImportStatement?
  rw [importedModule?_withoutComments h, foldl_addClause_withoutComments source h,
    Option.bind_map]
  simp only [Function.comp_def, literal?_withoutComments]
  cases (importedModule? n).bind (literal? source) <;> rfl

def exportedName? (s : Node) : Option Text :=
  if s.kind = .exportSpecifier then (s.child? .name).map (·.text source) else none

theorem exportedNames_withoutComments :
    n.withoutComments.namedChildren.filterMap (exportedName? source) =
      n.namedChildren.filterMap (exportedName? source) := by
  rw [Node.namedChildren_withoutComments, List.filterMap_map, List.filterMap_filter]
  apply List.filterMap_congr
  intro c hc
  have hplain := Node.hasPlainComments_of_mem_namedChildren h hc
  cases hk : c.isComment with
  | true => simp [exportedName?, Node.kind_of_isComment hk]
  | false => simp [exportedName?, Node.child?_withoutComments hplain, Function.comp_def]

theorem ofExportStatement?_withoutComments :
    ofExportStatement? source n.withoutComments =
      (ofExportStatement? source n).map Import.withoutComments := by
  have hnames : ((n.withoutComments.namedChildren.filter (·.kind = .exportClause)).flatMap
      (·.namedChildren)).filterMap (exportedName? source) =
      ((n.namedChildren.filter (·.kind = .exportClause)).flatMap
        (·.namedChildren)).filterMap (exportedName? source) := by
    rw [namedOfKind_withoutComments (by decide), List.flatMap_map, List.filterMap_flatMap,
      List.filterMap_flatMap]
    apply List.flatMap_congr
    intro clause hc
    have hmem := List.mem_of_mem_filter hc
    exact exportedNames_withoutComments source (Node.hasPlainComments_of_mem_namedChildren h hmem)
  unfold ofExportStatement?
  rw [Node.child?_withoutComments h, Option.bind_map]
  simp only [Function.comp_def, literal?_withoutComments]
  cases (n.child? .source).bind (literal? source) with
  | none => rfl
  | some specifier =>
    exact congrArg (fun names : List Text ↦
      some (⟨specifier, n.withoutComments, n.withoutComments, names, []⟩ : Import)) hnames

end Statements

section Initializers

theorem behindAwait_withoutComments (p : Place) :
    behindAwait p.withoutComments = (behindAwait p).withoutComments := by
  unfold behindAwait
  rw [Place.parent?_withoutComments, Option.filter_map]
  cases hp : p.parent? with
  | none => rfl
  | some above => by_cases hk : above.node.kind = .awaitExpression <;> simp [hk, Option.filter_some]

structure IsKept (p : Place) : Prop where
  sound : p.IsSound
  kept : p.node.isComment = false

theorem IsKept.parent {p above : Place} {k : Kind} (h : IsKept p) (hp : p.parent? = some above)
    (hk : above.node.kind = k) (hne : k ≠ .comment) : IsKept above where
  sound := h.sound.parent? hp
  kept := decide_eq_false (hk ▸ hne)

theorem IsKept.behindAwait {p : Place} (h : IsKept p) : IsKept (behindAwait p) := by
  unfold Usage.behindAwait
  cases hp : p.parent?.filter (·.node.kind = .awaitExpression) with
  | none => exact h
  | some above =>
    obtain ⟨hparent, hk⟩ := Option.filter_eq_some_iff.mp hp
    exact h.parent hparent (of_decide_eq_true hk) (by decide)

variable {p : Place} (h : IsKept p)

include h

theorem propertyOf?_withoutComments :
    propertyOf? source p.withoutComments =
      (propertyOf? source p).map fun e ↦ (e.1.withoutComments, e.2) := by
  unfold propertyOf?
  rw [Place.parent?_withoutComments, Option.filter_map, Option.bind_map, Option.map_bind]
  simp only [Function.comp_def, Place.withoutComments_node, Node.withoutComments_kind,
    h.sound.isFieldOfParent_withoutComments h.kept]
  apply Option.bind_congr
  intro access ha
  have hparent := (Option.filter_eq_some_iff.mp ha).1
  rw [Node.child?_withoutComments (h.sound.parent? hparent).hasPlainComments]
  simp [Function.comp_def]

theorem declaratorOf?_withoutComments :
    declaratorOf? p.withoutComments = (declaratorOf? p).map Place.withoutComments := by
  unfold declaratorOf?
  rw [Place.parent?_withoutComments, Option.filter_map]
  simp only [Function.comp_def, Place.withoutComments_node, Node.withoutComments_kind,
    h.sound.isFieldOfParent_withoutComments h.kept]

omit h in
theorem targetNames_withoutComments {d : Place} (hd : d.IsSound) (member : Option Text) :
    targetNames source d.withoutComments member = targetNames source d member := by
  unfold targetNames
  rw [Place.withoutComments_node, Node.child?_withoutComments hd.hasPlainComments, Option.map_map]
  cases hname : d.node.child? .name with
  | none => rfl
  | some target =>
    have hplain := Node.hasPlainComments_of_child? hd.hasPlainComments hname
    exact Names.ofTarget_withoutComments source hplain member

theorem declaredNames_withoutComments (member : Option Text) :
    (declaratorOf? p.withoutComments).map (fun d ↦ (d, targetNames source d member)) =
      ((declaratorOf? p).map fun d ↦ (d, targetNames source d member)).map
        fun e ↦ (e.1.withoutComments, e.2) := by
  rw [declaratorOf?_withoutComments h, Option.map_map, Option.map_map]
  cases hd : declaratorOf? p with
  | none => rfl
  | some d =>
    have hsound := h.sound.parent? (declaratorOf?_eq_some_iff.mp hd).parent
    simp [targetNames_withoutComments source hsound]

theorem initialized?_withoutComments :
    initialized? source p.withoutComments =
      (initialized? source p).map fun e ↦ (e.1.withoutComments, e.2) := by
  have hawait := h.behindAwait
  rw [initialized?_eq, initialized?_eq]
  dsimp only
  rw [behindAwait_withoutComments, propertyOf?_withoutComments source hawait]
  cases hm : propertyOf? source (behindAwait p) with
  | none => exact declaredNames_withoutComments source hawait none
  | some e =>
    obtain ⟨access, ha, hproperty⟩ := Option.bind_eq_some_iff.mp hm
    obtain ⟨property, -, rfl⟩ := Option.map_eq_some_iff.mp hproperty
    obtain ⟨hparent, hk⟩ := Option.filter_eq_some_iff.mp ha
    have haccess := hawait.parent hparent (of_decide_eq_true (Bool.and_eq_true_iff.mp hk).1)
      (by decide)
    exact declaredNames_withoutComments source haccess (some (property.text source))

end Initializers

section Loads

/-- Only comments keep a literal from being the first argument of a loader. -/
structure HidesModule (call : Node) : Prop where
  kind : call.kind = .callExpression
  loader : ∃ callee, call.child? .function = some callee ∧ isLoader source callee = true
  argument : ∃ arguments comment argument specifier, call.child? .arguments = some arguments ∧
    arguments.namedChildren.head? = some comment ∧ comment.isComment = true ∧
    arguments.firstKept? = some argument ∧ Literal source argument specifier

@[simp]
theorem isLoader_withoutComments (callee : Node) :
    isLoader source callee.withoutComments = isLoader source callee := by
  simp only [isLoader, Node.withoutComments_kind, Node.withoutComments_text]

theorem loaded?_withoutComments {call : Node} (h : call.hasPlainComments = true) :
    loaded? source call.withoutComments =
      (((call.child? .function).filter (isLoader source)).bind fun _ ↦
        (call.child? .arguments).bind fun arguments ↦
          arguments.firstKept?.bind (literal? source)) := by
  simp only [loaded?, Node.child?_withoutComments h, Option.filter_map, Function.comp_def,
    isLoader_withoutComments, Option.bind_eq_bind, Option.bind_map, Node.head?_withoutComments,
    literal?_withoutComments]

theorem HidesModule.loaded?_eq {call : Node} (h : HidesModule source call) :
    loaded? source call = none := by
  obtain ⟨arguments, comment, argument, specifier, ha, hhead, hcomment, -, -⟩ := h.argument
  simp only [loaded?, Option.bind_eq_bind, ha, hhead, Option.bind_some]
  cases (call.child? .function).filter (isLoader source) with
  | none => rfl
  | some callee => simp [literal?, Node.kind_of_isComment hcomment]

theorem HidesModule.exists_loaded?_withoutComments {call : Node} (h : HidesModule source call)
    (hplain : call.hasPlainComments = true) :
    ∃ specifier, loaded? source call.withoutComments = some specifier := by
  obtain ⟨callee, hf, hl⟩ := h.loader
  obtain ⟨arguments, -, argument, specifier, ha, -, -, hk, ht⟩ := h.argument
  refine ⟨specifier, ?_⟩
  rw [loaded?_withoutComments source hplain, hf, ha, Option.filter_some, if_pos hl,
    Option.bind_some, Option.bind_some, hk, Option.bind_some]
  exact (literal?_eq_some_iff source).mpr ht

theorem loaded?_withoutComments_of_not_hidesModule {call : Node} (h : call.hasPlainComments = true)
    (hkind : call.kind = .callExpression) (hhides : ¬ HidesModule source call) :
    loaded? source call.withoutComments = loaded? source call := by
  rw [loaded?_withoutComments source h, loaded?, Option.bind_eq_bind]
  apply Option.bind_congr
  intro callee hc
  obtain ⟨hf, hl⟩ := Option.filter_eq_some_iff.mp hc
  apply Option.bind_congr
  intro arguments ha
  cases hhead : arguments.namedChildren.head? with
  | none => simp [Node.firstKept?, List.head?_eq_none_iff.mp hhead]
  | some c =>
    cases hcomment : c.isComment with
    | false => rw [Node.firstKept?_eq_head? hhead hcomment]
    | true =>
      have hnone : literal? source c = none := by simp [literal?, Node.kind_of_isComment hcomment]
      rw [Option.bind_some, hnone, Option.bind_eq_none_iff]
      intro argument hk
      cases ht : literal? source argument with
      | none => rfl
      | some specifier =>
        have hliteral := (literal?_eq_some_iff source).mp ht
        exact absurd ⟨hkind, ⟨callee, hf, hl⟩,
          ⟨arguments, c, argument, specifier, ha, hhead, hcomment, hk, hliteral⟩⟩ hhides

end Loads

section Imports

variable {p : Place} (h : IsKept p)

include h

theorem ofCall?_withoutComments (hloaded : loaded? source p.node.withoutComments =
    loaded? source p.node) :
    ofCall? source p.withoutComments = (ofCall? source p).map Import.withoutComments := by
  unfold ofCall?
  rw [initialized?_withoutComments source h, Place.withoutComments_node, hloaded]
  cases loaded? source p.node with
  | none => rfl
  | some specifier =>
    cases initialized? source p with
    | none => rfl
    | some e =>
      obtain ⟨declarator, names⟩ := e
      simp only [Option.map_some, Place.parent?_withoutComments]
      cases declarator.parent? <;> rfl

theorem import?_withoutComments (hhides : ¬ HidesModule source p.node) :
    (import? source p).map Import.withoutComments = import? source p.withoutComments := by
  have hplain := h.sound.hasPlainComments
  unfold import?
  rw [Place.withoutComments_node, Node.withoutComments_kind]
  cases hk : p.node.kind with
  | importStatement => exact (ofImportStatement?_withoutComments source hplain).symm
  | exportStatement => exact (ofExportStatement?_withoutComments source hplain).symm
  | callExpression =>
    have hloaded := loaded?_withoutComments_of_not_hidesModule source hplain hk hhides
    exact (ofCall?_withoutComments source h hloaded).symm
  | _ => rfl

theorem import?_of_hidesModule (hhides : HidesModule source p.node) :
    (import? source p).isSome = false ∧ (import? source p.withoutComments).isSome = true := by
  have hnone := hhides.loaded?_eq
  obtain ⟨specifier, hloaded⟩ :=
    hhides.exists_loaded?_withoutComments source h.sound.hasPlainComments
  simp only [import?, Place.withoutComments_node, Node.withoutComments_kind, hhides.kind]
  constructor
  · rw [← Option.isSome_map, ofCall?_specifier, hnone, Option.isSome_none]
  · rw [← Option.isSome_map, ofCall?_specifier, Place.withoutComments_node, hloaded,
      Option.isSome_some]

end Imports

section Roots

/-- A receiver starts from an identifier, where comments within brackets are passed over. -/
inductive StartsPast : Node → Node → Prop
  | identifier {n : Node} : n.kind = .identifier → StartsPast n n
  | member {n object root : Node} : n.kind = .memberExpression → n.child? .object = some object →
      StartsPast object root → StartsPast n root
  | enclosed {n inner root : Node} :
      n.kind = .nonNullExpression ∨ n.kind = .parenthesizedExpression →
      n.firstKept? = some inner → StartsPast inner root → StartsPast n root

def HasRootPast (call : Node) (name : Text) : Prop :=
  ∃ callee object root, call.child? .function = some callee ∧
    callee.child? .object = some object ∧ StartsPast object root ∧
    root.text source = name ∧ name ≠ []

/-- Only comments keep the receiver of a call from starting from the name. -/
structure HidesRoot (call : Node) (name : Text) : Prop where
  past : HasRootPast source call name
  hidden : ¬ HasRoot source call name

theorem StartsFrom.isComment {n root : Node} (h : StartsFrom n root) : n.isComment = false := by
  cases h with
  | identifier hk => simp [Node.isComment, hk]
  | member hk => simp [Node.isComment, hk]
  | enclosed hk => rcases hk with hk | hk <;> simp [Node.isComment, hk]

theorem StartsFrom.startsPast {n root : Node} (h : StartsFrom n root) : StartsPast n root := by
  induction h with
  | identifier hk => exact .identifier hk
  | member hk ho _ ih => exact .member hk ho ih
  | enclosed hk hi hr ih => exact .enclosed hk (Node.firstKept?_eq_head? hi hr.isComment) ih

theorem StartsPast.startsFrom_withoutComments {n root : Node} (h : StartsPast n root)
    (hn : n.hasPlainComments = true) : StartsFrom n.withoutComments root.withoutComments := by
  induction h with
  | @identifier n hk => exact .identifier (by rw [Node.withoutComments_kind, hk])
  | @member n object root hk ho _ ih =>
    have hobject := Node.hasPlainComments_of_child? hn ho
    refine .member (by rw [Node.withoutComments_kind, hk]) ?_ (ih hobject)
    rw [Node.child?_withoutComments hn, ho, Option.map_some]
  | @enclosed n inner root hk hi _ ih =>
    have hinner := Node.hasPlainComments_of_firstKept? hn hi
    refine .enclosed (by rwa [Node.withoutComments_kind]) ?_ (ih hinner)
    rw [Node.head?_withoutComments, hi, Option.map_some]

theorem startsPast_of_withoutComments {n m root : Node} (h : StartsFrom m root)
    (hm : n.withoutComments = m) (hn : n.hasPlainComments = true) :
    ∃ r, StartsPast n r ∧ r.withoutComments = root := by
  induction h generalizing n with
  | identifier hk =>
    subst hm
    rw [Node.withoutComments_kind] at hk
    exact ⟨n, .identifier hk, rfl⟩
  | member hk ho _ ih =>
    subst hm
    rw [Node.withoutComments_kind] at hk
    rw [Node.child?_withoutComments hn] at ho
    obtain ⟨object, hobject, rfl⟩ := Option.map_eq_some_iff.mp ho
    have hplain := Node.hasPlainComments_of_child? hn hobject
    obtain ⟨r, hr, rfl⟩ := ih rfl hplain
    exact ⟨r, .member hk hobject hr, rfl⟩
  | enclosed hk hi _ ih =>
    subst hm
    rw [Node.withoutComments_kind] at hk
    rw [Node.head?_withoutComments] at hi
    obtain ⟨inner, hinner, rfl⟩ := Option.map_eq_some_iff.mp hi
    have hplain := Node.hasPlainComments_of_firstKept? hn hinner
    obtain ⟨r, hr, rfl⟩ := ih rfl hplain
    exact ⟨r, .enclosed hk hinner hr, rfl⟩

theorem HasRoot.hasRootPast {call : Node} {name : Text} (h : HasRoot source call name) :
    HasRootPast source call name := by
  obtain ⟨callee, object, root, hf, ho, hr, ht⟩ := h
  exact ⟨callee, object, root, hf, ho, hr.startsPast, ht⟩

theorem hasRoot_withoutComments_iff {call : Node} (h : call.hasPlainComments = true)
    {name : Text} : HasRoot source call.withoutComments name ↔ HasRootPast source call name := by
  constructor
  · rintro ⟨_, _, _, hf, ho, hr, ht, hn⟩
    rw [Node.child?_withoutComments h] at hf
    obtain ⟨callee, hcallee, rfl⟩ := Option.map_eq_some_iff.mp hf
    have hplain := Node.hasPlainComments_of_child? h hcallee
    rw [Node.child?_withoutComments hplain] at ho
    obtain ⟨object, hobject, rfl⟩ := Option.map_eq_some_iff.mp ho
    have hplain' := Node.hasPlainComments_of_child? hplain hobject
    obtain ⟨root, hroot, rfl⟩ := startsPast_of_withoutComments hr rfl hplain'
    rw [Node.withoutComments_text] at ht
    exact ⟨callee, object, root, hcallee, hobject, hroot, ht, hn⟩
  · rintro ⟨callee, object, root, hf, ho, hr, ht, hn⟩
    have hcallee := Node.hasPlainComments_of_child? h hf
    have hobject := Node.hasPlainComments_of_child? hcallee ho
    refine ⟨callee.withoutComments, object.withoutComments, root.withoutComments, ?_, ?_,
      hr.startsFrom_withoutComments hobject, ?_, hn⟩
    · rw [Node.child?_withoutComments h, hf, Option.map_some]
    · rw [Node.child?_withoutComments hcallee, ho, Option.map_some]
    · rw [Node.withoutComments_text, ht]

theorem rootName?_withoutComments_eq_some_iff {call : Node} (h : call.hasPlainComments = true)
    {name : Text} :
    rootName? source call.withoutComments = some name ↔ HasRootPast source call name := by
  rw [rootName?_eq_some_iff, hasRoot_withoutComments_iff source h]

theorem HidesRoot.rootName?_eq {call : Node} {name : Text} (h : HidesRoot source call name)
    (hplain : call.hasPlainComments = true) : rootName? source call = none := by
  rw [Option.eq_none_iff_forall_ne_some]
  intro name' hname
  have hroot := (rootName?_eq_some_iff source).mp hname
  have hpast := (rootName?_withoutComments_eq_some_iff source hplain).mpr h.past
  have hpast' := (rootName?_withoutComments_eq_some_iff source hplain).mpr hroot.hasRootPast
  have heq : name' = name := Option.some.inj (hpast'.symm.trans hpast)
  exact h.hidden (heq ▸ hroot)

end Roots

section Attribution

variable (declared : List Text)

theorem binding?_withoutComments (imports : List Import) (name : Text) :
    binding? declared (imports.map Import.withoutComments) name =
      binding? declared imports name := by
  unfold binding?
  rw [List.filter_map, List.getLast?_map, Option.map_map]
  rfl

theorem attributed?_withoutComments {imports : List Import} {call : Node}
    (h : call.hasPlainComments = true)
    (hhides : ∀ name, HidesRoot source call name →
      (binding? declared imports name).getD (Package.ofIdentifier? declared name) = none) :
    attributed? source declared (imports.map Import.withoutComments) call.withoutComments =
      attributed? source declared imports call := by
  unfold attributed?
  simp only [binding?_withoutComments]
  cases hname : rootName? source call.withoutComments with
  | none =>
    have hnone : rootName? source call = none := by
      rw [Option.eq_none_iff_forall_ne_some]
      intro name hname'
      have hpast := ((rootName?_eq_some_iff source).mp hname').hasRootPast
      rw [(rootName?_withoutComments_eq_some_iff source h).mpr hpast] at hname
      cases hname
    rw [hnone]
  | some name =>
    have hpast := (rootName?_withoutComments_eq_some_iff source h).mp hname
    by_cases hroot : HasRoot source call name
    · rw [(rootName?_eq_some_iff source).mpr hroot]
    · have hhidden : HidesRoot source call name := ⟨hpast, hroot⟩
      rw [hhidden.rootName?_eq source h, Option.bind_some, hhides name hhidden]
      rfl

theorem Attributed.withoutComments {imports : List Import} {call : Node} {package : Text}
    (h : Attributed source declared imports call package)
    (hplain : call.hasPlainComments = true) :
    Attributed source declared (imports.map Import.withoutComments) call.withoutComments
      package := by
  obtain ⟨name, hroot, hbinding⟩ := h
  have hroot' := (hasRoot_withoutComments_iff source hplain).mpr hroot.hasRootPast
  refine ⟨name, hroot', ?_⟩
  rw [binding?_withoutComments]
  exact hbinding

theorem methodName_withoutComments {call : Node} (h : call.hasPlainComments = true) :
    methodName source call.withoutComments = methodName source call := by
  unfold methodName
  rw [Node.child?_withoutComments h]
  cases hf : call.child? .function with
  | none => rfl
  | some callee =>
    have hcallee := Node.hasPlainComments_of_child? h hf
    simp [Node.child?_withoutComments hcallee, Function.comp_def]

/-- The evidence that a package gets is text, names and lines, and has no trees. -/
theorem evidenceOf_withoutComments (imports : List Import) {calls : List Node}
    (h : ∀ call ∈ calls, call.hasPlainComments = true) :
    evidenceOf source (imports.map Import.withoutComments) (calls.map Node.withoutComments) =
      evidenceOf source imports calls := by
  have hmethods : calls.map (methodName source ∘ Node.withoutComments) =
      calls.map (methodName source) :=
    List.map_congr_left fun call hc ↦ methodName_withoutComments source (h call hc)
  simp only [evidenceOf, List.map_map, List.flatMap_map, hmethods, List.length_map]
  simp [Function.comp_def, Import.withoutComments]

end Attribution

end PackageAudit.Usage
