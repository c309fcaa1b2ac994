import PackageAudit.Proofs.Script.Reader
import PackageAudit.Script.Operation

namespace PackageAudit.Script

open Syntax Reader

-- The search counts what a reader does behind each of its bindings twice.
set_option synthInstance.maxSize 100000

section Literals

instance : number.KeepsFlags := by unfold number; infer_instance

instance (text : String) (length : ℕ) : (unclosed text length).KeepsFlags := by
  unfold unclosed; infer_instance

instance : string.KeepsFlags := by
  unfold string
  refine .bind fun _ ↦ ?_
  split
  · refine .bind fun _ ↦ ?_
    split <;> infer_instance
  · infer_instance

instance : regex.KeepsFlags := by
  unfold regex
  refine .bind fun _ ↦ ?_
  split
  · split <;> infer_instance
  · infer_instance

variable (kind : Kind) (substitution : Reader Node) [substitution.KeepsFlags]

instance : (templateOf.part substitution).KeepsFlags := by
  unfold templateOf.part
  refine .bind fun _ ↦ ?_
  split
  · infer_instance
  · split <;> infer_instance

instance (bound : ℕ) : (templateOf kind substitution bound).KeepsFlags := by
  unfold templateOf; infer_instance

end Literals

variable (k : Kit) (c : Context) (kind : Kind) (ends : Bool)

instance : (nameOf kind k).KeepsFlags := by unfold nameOf; infer_instance

instance : (name k).KeepsFlags := by unfold name; infer_instance

instance : propertyWord.KeepsFlags := by unfold propertyWord; infer_instance

instance : privateName.KeepsFlags := by
  unfold privateName
  refine .bind fun _ ↦ ?_
  split
  · split <;> infer_instance
  · infer_instance

instance : memberName.KeepsFlags := by unfold memberName; infer_instance

section Lists

variable (item : Reader (List Node)) [item.KeepsFlags]

instance : (sparse k item).KeepsFlags := by unfold sparse; infer_instance

instance : (separated k item).KeepsFlags := by unfold separated; infer_instance

instance : (listed k item).KeepsFlags := by unfold listed; infer_instance

end Lists

variable [k.KeepsFlags] (n : Node) [Flagged n]

section Patterns

instance : (propertyName k).KeepsFlags := by unfold propertyName; infer_instance

instance (target : Reader Node) [target.KeepsFlags] :
    (patternWithDefault k kind target).KeepsFlags := by
  unfold patternWithDefault; infer_instance

instance : (restPattern k).KeepsFlags := by unfold restPattern; infer_instance

instance : (pairPattern k).KeepsFlags := by unfold pairPattern; infer_instance

instance : (objectPattern.shorthand k).KeepsFlags := by
  unfold objectPattern.shorthand; infer_instance

instance : (objectPattern.target k).KeepsFlags := by
  unfold objectPattern.target
  refine .bind fun _ ↦ ?_
  split <;> infer_instance

instance : (objectPattern.withDefault k).KeepsFlags := by
  unfold objectPattern.withDefault; infer_instance

instance : (objectPattern.member k).KeepsFlags := by unfold objectPattern.member; infer_instance

instance : (objectPattern k).KeepsFlags := by unfold objectPattern; infer_instance

instance : (arrayPattern k).KeepsFlags := by unfold arrayPattern; infer_instance

instance : (destructuring k).KeepsFlags := by
  unfold destructuring
  refine .bind fun _ ↦ ?_
  split <;> infer_instance

instance : (bindingTarget k).KeepsFlags := by unfold bindingTarget; infer_instance

instance : (placePattern.step k n).KeepsFlags := by
  unfold placePattern.step
  iterate 2 refine .bind fun _ ↦ ?_
  split <;> infer_instance

instance : (placePattern k).KeepsFlags := by unfold placePattern; infer_instance

instance : (pattern k).KeepsFlags := by
  unfold pattern
  refine .bind fun _ ↦ ?_
  split <;> infer_instance

end Patterns

section Ascriptions

instance : (typeAscription k ends).KeepsFlags := by unfold typeAscription; infer_instance

instance : (ascription k ends).KeepsFlags := by unfold ascription; infer_instance

instance : (typeArguments k).KeepsFlags := by unfold typeArguments; infer_instance

instance (before : List Node) [Flagged before] : (typeParameters.plain k before).KeepsFlags := by
  unfold typeParameters.plain; infer_instance

instance : (typeParameters.constant k).KeepsFlags := by
  unfold typeParameters.constant; infer_instance

instance : (typeParameters.parameter k).KeepsFlags := by
  unfold typeParameters.parameter; infer_instance

instance : (typeParameters k).KeepsFlags := by unfold typeParameters; infer_instance

instance : (resultAscription.subject k).KeepsFlags := by
  unfold resultAscription.subject; infer_instance

instance : (resultAscription.guard k ends).KeepsFlags := by
  unfold resultAscription.guard; infer_instance

instance : (resultAscription.assertion k ends).KeepsFlags := by
  unfold resultAscription.assertion; infer_instance

instance : (resultAscription k ends).KeepsFlags := by unfold resultAscription; infer_instance

instance (words : List String) : (modifiers k words).KeepsFlags := by
  have hmodifier : (modifiers.modifier k words).KeepsFlags := by
    unfold modifiers.modifier; infer_instance
  unfold modifiers; infer_instance

instance : (decoratorTarget.step n).KeepsFlags := by unfold decoratorTarget.step; infer_instance

instance : (decoratorTarget k).KeepsFlags := by unfold decoratorTarget; infer_instance

instance : (spread k).KeepsFlags := by unfold spread; infer_instance

instance : (argumentList k).KeepsFlags := by unfold argumentList; infer_instance

instance : (decorator.applied k).KeepsFlags := by unfold decorator.applied; infer_instance

instance : (decorator.enclosed k).KeepsFlags := by unfold decorator.enclosed; infer_instance

instance : (decorator k).KeepsFlags := by unfold decorator; infer_instance

instance : (decorators k).KeepsFlags := by unfold decorators; infer_instance

instance : (initializer k c).KeepsFlags := by unfold initializer; infer_instance

instance : (parameter.target k).KeepsFlags := by
  unfold parameter.target
  refine .bind fun _ ↦ ?_
  split <;> infer_instance

instance : (parameter.typed k).KeepsFlags := by unfold parameter.typed; infer_instance

instance : (parameter k).KeepsFlags := by unfold parameter; infer_instance

instance : (parameters k).KeepsFlags := by unfold parameters; infer_instance

instance : (signature k ends).KeepsFlags := by unfold signature; infer_instance

end Ascriptions

section Functions

theorem gives_join {kind : Kind} (hkind : kind ≠ .error) (ns : List Node) [Flagged ns] :
    Gives (fun n ↦ n.FlagsFaults ∧ n.kind ≠ .error) (join kind ns) := by
  refine KeepsFlags.gives_bind fun _ ↦ .pure ⟨?_, hkind⟩
  exact Node.flagsFaults_ofChildren kind Flagged.nodes

/-- What a function gives is a declaration, an expression or a signature, and never an error. -/
theorem gives_function (rule : BodyRule) :
    Gives (fun n ↦ n.FlagsFaults ∧ n.kind ≠ .error) (function k rule) := by
  unfold function
  iterate 5 refine KeepsFlags.gives_bind fun _ ↦ ?_
  refine .orElse ?_ ?_
  · refine KeepsFlags.gives_bind fun _ ↦ gives_join ?_ _
    split_ifs <;> exact Kind.noConfusion
  · iterate 2 refine KeepsFlags.gives_bind fun _ ↦ ?_
    exact gives_join Kind.noConfusion _

instance (rule : BodyRule) : (function k rule).KeepsFlags :=
  ⟨(gives_function k rule).mono fun _ hn ↦ flagged_node_iff.mpr hn.1⟩

instance : (functionExpression k).KeepsFlags := by
  refine ⟨(gives_function k .required).bind fun n hn ↦ .pure ?_⟩
  exact flagged_node_iff.mpr (hn.1.of_kind_ne hn.2 Kind.noConfusion rfl rfl rfl)

instance : (arrowBody k c).KeepsFlags := by unfold arrowBody; infer_instance

instance : (arrow k c).KeepsFlags := by unfold arrow; infer_instance

instance : (bareArrow k c).KeepsFlags := by unfold bareArrow; infer_instance

instance : (staticBlock k).KeepsFlags := by unfold staticBlock; infer_instance

instance (afterOperand : Bool) : (classMember.finish k afterOperand).KeepsFlags := by
  unfold classMember.finish; infer_instance

instance : (classMember.indexed k).KeepsFlags := by unfold classMember.indexed; infer_instance

instance (head : List Node) [Flagged head] : (classMember.method k head).KeepsFlags := by
  unfold classMember.method; infer_instance

instance : (classMember k).KeepsFlags := by unfold classMember; infer_instance

instance : (classBody k).KeepsFlags := by unfold classBody; infer_instance

instance : (heritage.applied k).KeepsFlags := by unfold heritage.applied; infer_instance

instance : (heritage.base k).KeepsFlags := by unfold heritage.base; infer_instance

instance : (heritage k).KeepsFlags := by unfold heritage; infer_instance

instance : (classFrom.className k).KeepsFlags := by unfold classFrom.className; infer_instance

instance (before : List Node) [Flagged before] (anonymous : Bool) :
    (classFrom k kind before anonymous).KeepsFlags := by
  unfold classFrom; infer_instance

instance : (classExpression k).KeepsFlags := by unfold classExpression; infer_instance

end Functions

section Elements

namespace Element

instance : (tagWord kind).KeepsFlags := by unfold tagWord; infer_instance

instance : (tagName.member n).KeepsFlags := by unfold tagName.member; infer_instance

instance : (tagName k).KeepsFlags := by unfold tagName; infer_instance

instance : quoted.KeepsFlags := by
  unfold quoted
  refine .bind fun _ ↦ ?_
  split
  · refine .bind fun _ ↦ ?_
    split <;> infer_instance
  · infer_instance

variable (sequence : Reader Node) [sequence.KeepsFlags]

instance : (braces k sequence).KeepsFlags := by unfold braces; infer_instance

instance : (tagAttribute k sequence).KeepsFlags := by unfold tagAttribute; infer_instance

instance : (tag k sequence).KeepsFlags := by unfold tag; infer_instance

instance : (child k sequence).KeepsFlags := by
  unfold child
  refine .bind fun cs ↦ ?_
  rcases textLength cs.1 false with ⟨length, seen⟩
  dsimp only
  split
  · infer_instance
  · iterate 2 refine .bind fun _ ↦ ?_
    split <;> infer_instance

instance : (element k sequence).KeepsFlags := by unfold element; infer_instance

end Element

end Elements

section Operands

instance : (sequence k c).KeepsFlags := by unfold sequence; infer_instance

instance : (enclosedSequence k).KeepsFlags := by unfold enclosedSequence; infer_instance

instance : (parenthesized k).KeepsFlags := by unfold parenthesized; infer_instance

instance : (array k).KeepsFlags := by unfold array; infer_instance

instance (head : List Node) [Flagged head] : (object.method k head).KeepsFlags := by
  unfold object.method; infer_instance

instance : (object.pair k n).KeepsFlags := by unfold object.pair; infer_instance

instance : (object.property k).KeepsFlags := by unfold object.property; infer_instance

instance : (object.member k).KeepsFlags := by unfold object.member; infer_instance

instance : (object k).KeepsFlags := by unfold object; infer_instance

instance : (importOperand.call k).KeepsFlags := by unfold importOperand.call; infer_instance

instance : importOperand.metaProperty.KeepsFlags := by
  unfold importOperand.metaProperty; infer_instance

instance : (importOperand k).KeepsFlags := by unfold importOperand; infer_instance

instance : (startsOperand k c).KeepsFlags := by
  unfold startsOperand
  iterate 3
    refine .bind fun _ ↦ ?_
    split
    · infer_instance
  refine .look ?_
  iterate 2 refine .bind fun _ ↦ ?_
  split <;> infer_instance

instance : construction.metaProperty.KeepsFlags := by
  unfold construction.metaProperty; infer_instance

instance : (construction.instantiation k c).KeepsFlags := by
  unfold construction.instantiation; infer_instance

instance (target : Reader Node) [target.KeepsFlags] : (construction k c target).KeepsFlags := by
  unfold construction; infer_instance

instance : (suffix.substitution k).KeepsFlags := by unfold suffix.substitution; infer_instance

instance : (suffix.template k).KeepsFlags := by unfold suffix.template; infer_instance

instance : (suffix.subscript k).KeepsFlags := by unfold suffix.subscript; infer_instance

section Chains

variable (comments : List Node) [Flagged comments] (chain : Node) [Flagged chain]

instance : (suffix.memberBehind n comments chain).KeepsFlags := by
  unfold suffix.memberBehind; infer_instance

instance : (suffix.subscriptBehind k n comments chain).KeepsFlags := by
  unfold suffix.subscriptBehind; infer_instance

instance : (suffix.callBehind k n comments chain).KeepsFlags := by
  unfold suffix.callBehind; infer_instance

end Chains

instance : (suffix k c n).KeepsFlags := by
  unfold suffix
  iterate 2 refine .bind fun _ ↦ ?_
  split <;> infer_instance

instance : (suffixes k c n).KeepsFlags := by unfold suffixes; infer_instance

instance : (constructionTarget.step k c n).KeepsFlags := by
  unfold constructionTarget.step; infer_instance

instance (base : Reader Node) [base.KeepsFlags] : (constructionTarget k c base).KeepsFlags := by
  unfold constructionTarget; infer_instance

instance : (assigned k c n).KeepsFlags := by unfold assigned; infer_instance

section Brackets

variable (literal : Reader Node) [literal.KeepsFlags]

instance : (bracketed.plain literal).KeepsFlags := by unfold bracketed.plain; infer_instance

instance : (bracketed k c literal).KeepsFlags := by unfold bracketed; infer_instance

end Brackets

instance : (parenthesizedOrArrow.closed k c).KeepsFlags := by
  unfold parenthesizedOrArrow.closed
  iterate 3 refine .bind fun _ ↦ ?_
  split <;> infer_instance

instance : (parenthesizedOrArrow k c).KeepsFlags := by unfold parenthesizedOrArrow; infer_instance

instance (word : String) : (keywordLeaf word).KeepsFlags := by unfold keywordLeaf; infer_instance

instance : privateOperand.KeepsFlags := by unfold privateOperand; infer_instance

instance : (identifierOperand k).KeepsFlags := by
  unfold identifierOperand
  iterate 2 refine .bind fun _ ↦ ?_
  split <;> infer_instance

instance : (resourceAssignment k c).KeepsFlags := by unfold resourceAssignment; infer_instance

instance : (namespaceOperand k c).KeepsFlags := by unfold namespaceOperand; infer_instance

instance : (wordOperand k c).KeepsFlags := by
  unfold wordOperand
  refine .bind fun _ ↦ ?_
  split <;> infer_instance

instance : (primary.angled k c).KeepsFlags := by unfold primary.angled; infer_instance

instance : (primary k c).KeepsFlags := by
  unfold primary
  refine .bind fun _ ↦ ?_
  split <;> infer_instance

instance (op : Reader (List Node)) [op.KeepsFlags] : (unary k c op).KeepsFlags := by
  unfold unary; infer_instance

instance (op : String) : (update k c op).KeepsFlags := by unfold update; infer_instance

section Yields

variable (word : List Node) [Flagged word]

instance : (yielding.delegated k c word).KeepsFlags := by
  unfold yielding.delegated; infer_instance

instance : (yielding.valued k c word).KeepsFlags := by unfold yielding.valued; infer_instance

end Yields

instance : (yielding k c).KeepsFlags := by unfold yielding; infer_instance

instance : (asserted k c n).KeepsFlags := by unfold asserted; infer_instance

instance : (awaiting.full k c).KeepsFlags := by unfold awaiting.full; infer_instance

instance : (awaiting.alone k c).KeepsFlags := by unfold awaiting.alone; infer_instance

instance : (awaiting k c).KeepsFlags := by unfold awaiting; infer_instance

instance : (operand k c).KeepsFlags := by
  unfold operand
  refine .bind fun _ ↦ ?_
  split
  case h_7 =>
    refine .bind fun _ ↦ ?_
    split <;> infer_instance
  all_goals infer_instance

end Operands

section Operations

variable (level : ℕ)

instance : operatorText.KeepsFlags := by unfold operatorText; infer_instance

instance : (binary k c level n).KeepsFlags := by
  unfold binary
  refine .phrase .binaryExpression ?_
  iterate 2 refine .bind fun _ ↦ ?_
  split <;> infer_instance

instance : (instantiated k c n).KeepsFlags := by unfold instantiated; infer_instance

instance : (cast k c n).KeepsFlags := by unfold cast; infer_instance

instance : (operation.step k c level n).KeepsFlags := by unfold operation.step; infer_instance

instance : (operation k c level).KeepsFlags := by unfold operation; infer_instance

instance (inner : Context) : (expression.branches k c inner).KeepsFlags := by
  unfold expression.branches; infer_instance

instance : (expression.conditional k c n).KeepsFlags := by
  unfold expression.conditional; infer_instance

instance : (expression k c).KeepsFlags := by unfold expression; infer_instance

end Operations

end PackageAudit.Script
