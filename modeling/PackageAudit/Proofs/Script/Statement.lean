import PackageAudit.Proofs.Script.Operand
import PackageAudit.Script.Program

namespace PackageAudit.Script

open Syntax Reader

-- The search counts what a reader does behind each of its bindings twice.
set_option synthInstance.maxSize 100000

variable (k : Kit) [k.KeepsFlags] (n : Node) [Flagged n] (ends : Bool)

section Types

theorem gives_keyword (text : String) :
    Gives (fun ns ↦ ∀ n ∈ ns, n.FlagsFaults ∧ n.kind ≠ .error) (keyword text) := by
  have hleaf : Gives (fun n ↦ n.FlagsFaults ∧ n.kind ≠ .error)
      (leaf (.token text) false text.length) := by
    unfold leaf
    iterate 5 refine KeepsFlags.gives_bind fun _ ↦ ?_
    exact .pure ⟨Node.flagsFaults_leaf _ _ _ _, Kind.noConfusion⟩
  unfold keyword
  iterate 2 refine KeepsFlags.gives_bind fun _ ↦ ?_
  exact hleaf.bind fun n hn ↦ .pure (List.forall_mem_singleton.mpr hn)

namespace TypeExpr

instance : (onward k ends).KeepsFlags := by unfold onward; infer_instance

instance (kind : Kind) : (word kind).KeepsFlags := by unfold word; infer_instance

instance : (named.member n).KeepsFlags := by unfold named.member; infer_instance

instance : (named k).KeepsFlags := by unfold named; infer_instance

instance : (importCall k).KeepsFlags := by
  unfold importCall
  refine .phrase .callExpression ⟨(gives_keyword "import").bind fun callee hcallee ↦ ?_⟩
  -- The word becomes the callee, which is another kind of node.
  have hcallees : Flagged ((callee.map fun n ↦ { n with kind := .importCallee, named := true }).map
      (·.underField .function)) := by
    refine flagged_nodes_iff.mpr ?_
    simp only [List.forall_mem_map]
    intro n hn
    obtain ⟨hflags, hkind⟩ := hcallee n hn
    have hother := hflags.of_kind_ne (m := { n with kind := .importCallee, named := true }) hkind
      Kind.noConfusion rfl rfl rfl
    exact hother.underField .function
  exact KeepsFlags.gives

instance : (memberOf n).KeepsFlags := by unfold memberOf; infer_instance

instance : (queried.subscript n).KeepsFlags := by unfold queried.subscript; infer_instance

instance : (queried.call k n).KeepsFlags := by unfold queried.call; infer_instance

instance : (queried k).KeepsFlags := by unfold queried; infer_instance

instance : (query k).KeepsFlags := by unfold query; infer_instance

instance : (functionType.result k ends).KeepsFlags := by
  unfold functionType.result; infer_instance

instance : (functionType k ends).KeepsFlags := by unfold functionType; infer_instance

instance : (tuple.labelled k).KeepsFlags := by unfold tuple.labelled; infer_instance

instance : (tuple.restType k).KeepsFlags := by unfold tuple.restType; infer_instance

instance : (tuple.plain k).KeepsFlags := by unfold tuple.plain; infer_instance

instance : (tuple k).KeepsFlags := by unfold tuple; infer_instance

instance : (indexAscription k ends).KeepsFlags := by unfold indexAscription; infer_instance

instance : (indexSignature.mapped k).KeepsFlags := by unfold indexSignature.mapped; infer_instance

instance : (indexSignature.keyed k).KeepsFlags := by unfold indexSignature.keyed; infer_instance

instance : (indexSignature k).KeepsFlags := by unfold indexSignature; infer_instance

instance : (typeMember.callSignature k).KeepsFlags := by
  unfold typeMember.callSignature; infer_instance

instance : (typeMember.constructSignature k).KeepsFlags := by
  unfold typeMember.constructSignature; infer_instance

instance : (typeMember.property k).KeepsFlags := by unfold typeMember.property; infer_instance

instance : (typeMember k).KeepsFlags := by unfold typeMember; infer_instance

instance : objectType.atEnd.KeepsFlags := by unfold objectType.atEnd; infer_instance

instance : (objectType.item k).KeepsFlags := by unfold objectType.item; infer_instance

instance : (objectType k).KeepsFlags := by unfold objectType; infer_instance

instance : (literalTemplate.substitution k).KeepsFlags := by
  unfold literalTemplate.substitution; infer_instance

instance : (literalTemplate k).KeepsFlags := by unfold literalTemplate; infer_instance

instance : literal.KeepsFlags := by unfold literal; infer_instance

instance : (primary.postfixed k ends).KeepsFlags := by unfold primary.postfixed; infer_instance

instance (text : String) : (primary.operator k ends text).KeepsFlags := by
  unfold primary.operator; infer_instance

instance : primary.unique.KeepsFlags := by unfold primary.unique; infer_instance

instance : (primary k ends).KeepsFlags := by
  unfold primary
  refine .bind fun _ ↦ ?_
  split
  case h_6 =>
    refine .bind fun _ ↦ ?_
    split <;> infer_instance
  all_goals infer_instance

instance : (postfixed.imported k).KeepsFlags := by unfold postfixed.imported; infer_instance

instance : postfixed.infer.KeepsFlags := by unfold postfixed.infer; infer_instance

instance : (postfixed.readonly_ k ends).KeepsFlags := by
  unfold postfixed.readonly_; infer_instance

instance : (postfixed.brackets k ends n).KeepsFlags := by
  unfold postfixed.brackets; infer_instance

instance : (postfixed k ends).KeepsFlags := by unfold postfixed; infer_instance

section Joined

variable (operator : String) (operand : Reader Node) [operand.KeepsFlags]

instance : (joined.more operator operand k ends).KeepsFlags := by
  unfold joined.more; infer_instance

instance : (joined operator operand k ends).KeepsFlags := by unfold joined; infer_instance

end Joined

instance : (type k ends).KeepsFlags := by unfold type; infer_instance

end TypeExpr

end Types

section Linkage

instance : (exportedName k).KeepsFlags := by unfold exportedName; infer_instance

instance : fromClause.KeepsFlags := by unfold fromClause; infer_instance

instance : (typeWord k).KeepsFlags := by unfold typeWord; infer_instance

section Specifiers

variable (kind : Kind) (before : List Node) [Flagged before] (plain renamed alias_ : Reader Node)
  [plain.KeepsFlags] [renamed.KeepsFlags] [alias_.KeepsFlags]

instance (r : Reader (List Node)) [r.KeepsFlags] : (specifier.complete r).KeepsFlags := by
  unfold specifier.complete; infer_instance

instance : (specifier.withAlias before renamed alias_).KeepsFlags := by
  unfold specifier.withAlias; infer_instance

instance : (specifier kind before plain renamed alias_).KeepsFlags := by
  unfold specifier; infer_instance

end Specifiers

instance : (importSpecifier k).KeepsFlags := by
  unfold importSpecifier importSpecifier.withType; infer_instance

instance : (exportSpecifier k).KeepsFlags := by
  unfold exportSpecifier exportSpecifier.withType; infer_instance

instance (kind : Kind) (item : Reader Node) [item.KeepsFlags] :
    (braced k kind item).KeepsFlags := by
  unfold braced; infer_instance

instance : (namespaceImport k).KeepsFlags := by unfold namespaceImport; infer_instance

instance : (importClause k).KeepsFlags := by
  unfold importClause importClause.group; infer_instance

instance : (importRequireClause k).KeepsFlags := by unfold importRequireClause; infer_instance

instance : (importAttributes k).KeepsFlags := by unfold importAttributes; infer_instance

instance : importStatement.source.KeepsFlags := by unfold importStatement.source; infer_instance

instance : (importStatement.clause k).KeepsFlags := by
  unfold importStatement.clause; infer_instance

instance : (importStatement k).KeepsFlags := by unfold importStatement; infer_instance

instance : (importAlias k).KeepsFlags := by unfold importAlias; infer_instance

section Exports

instance : (exportStatement.all k).KeepsFlags := by unfold exportStatement.all; infer_instance

instance : (exportStatement.names k).KeepsFlags := by unfold exportStatement.names; infer_instance

instance : (exportStatement.typedNames k).KeepsFlags := by
  unfold exportStatement.typedNames; infer_instance

instance : (exportStatement.assigned k).KeepsFlags := by
  unfold exportStatement.assigned; infer_instance

instance : (exportStatement.namespace_ k).KeepsFlags := by
  unfold exportStatement.namespace_; infer_instance

instance : (exportStatement.special k).KeepsFlags := by
  unfold exportStatement.special; infer_instance

instance : (exportStatement.linked k).KeepsFlags := by
  unfold exportStatement.linked; infer_instance

variable (declaration : Reader Node) [declaration.KeepsFlags]

instance : (exportStatement.fallback k declaration).KeepsFlags := by
  unfold exportStatement.fallback; infer_instance

instance (plain : Bool) : (exportStatement.body k declaration plain).KeepsFlags := by
  unfold exportStatement.body; infer_instance

instance (applied : List Node) [Flagged applied] :
    (exportStatement k applied declaration).KeepsFlags := by
  unfold exportStatement; infer_instance

end Exports

end Linkage

section Statements

instance : (block k).KeepsFlags := by unfold block; infer_instance

instance : (expressionStatement k).KeepsFlags := by unfold expressionStatement; infer_instance

instance : variableDeclarator.definite.KeepsFlags := by
  unfold variableDeclarator.definite; infer_instance

instance : (variableDeclarator k).KeepsFlags := by unfold variableDeclarator; infer_instance

instance (text : String) : (declarationWord.bindingWord k text).KeepsFlags := by
  unfold declarationWord.bindingWord; infer_instance

instance : (declarationWord k).KeepsFlags := by
  unfold declarationWord
  refine .bind fun _ ↦ ?_
  split <;> infer_instance

instance : (declarators k).KeepsFlags := by unfold declarators; infer_instance

instance : (variableDeclaration k).KeepsFlags := by unfold variableDeclaration; infer_instance

instance (applied : List Node) [Flagged applied] : (classDeclaration k applied).KeepsFlags := by
  unfold classDeclaration
  refine .bind fun _ ↦ ?_
  split <;> infer_instance

instance : (interfaceDeclaration k).KeepsFlags := by unfold interfaceDeclaration; infer_instance

instance : (enumDeclaration k).KeepsFlags := by
  unfold enumDeclaration enumDeclaration.member; infer_instance

instance : (typeAlias k).KeepsFlags := by unfold typeAlias; infer_instance

instance : (moduleDeclaration k).KeepsFlags := by unfold moduleDeclaration; infer_instance

section Declarations

variable (inner : Reader Node) [inner.KeepsFlags]

instance : (typedDeclaration.ambient k inner).KeepsFlags := by
  unfold typedDeclaration.ambient typedDeclaration.global; infer_instance

instance : (typedDeclaration k inner).KeepsFlags := by
  unfold typedDeclaration
  iterate 2 refine .bind fun _ ↦ ?_
  split <;> infer_instance

end Declarations

instance : (plainDeclaration.functionDeclaration k).KeepsFlags := by
  unfold plainDeclaration.functionDeclaration; infer_instance

instance : (plainDeclaration k).KeepsFlags := by
  unfold plainDeclaration
  refine .bind fun _ ↦ ?_
  split <;> infer_instance

instance : (declaration k).KeepsFlags := by unfold declaration; infer_instance

instance : (condition k).KeepsFlags := by unfold condition; infer_instance

instance : (ifStatement k).KeepsFlags := by
  unfold ifStatement ifStatement.alternative; infer_instance

instance : (switchStatement.statements k).KeepsFlags := by
  unfold switchStatement.statements; infer_instance

instance : (switchStatement.case_ k).KeepsFlags := by
  unfold switchStatement.case_; infer_instance

instance : (switchStatement.default_ k).KeepsFlags := by
  unfold switchStatement.default_; infer_instance

instance : (switchStatement k).KeepsFlags := by
  unfold switchStatement switchStatement.body; infer_instance

instance : (forInStatement.declared k).KeepsFlags := by
  unfold forInStatement.declared; infer_instance

instance : (forInStatement.target k).KeepsFlags := by
  unfold forInStatement.target; infer_instance

instance : (forInStatement k).KeepsFlags := by unfold forInStatement; infer_instance

instance : (forStatement k).KeepsFlags := by
  unfold forStatement forStatement.clause; infer_instance

instance (kind : Kind) (opening : String) : (whileStatement k kind opening).KeepsFlags := by
  unfold whileStatement; infer_instance

instance : (doStatement k).KeepsFlags := by unfold doStatement; infer_instance

instance : (tryStatement k).KeepsFlags := by
  unfold tryStatement tryStatement.catchClause tryStatement.finallyClause; infer_instance

instance (text : String) : (jumpStatement k text).KeepsFlags := by
  unfold jumpStatement; infer_instance

instance : (returnStatement k).KeepsFlags := by unfold returnStatement; infer_instance

instance : (throwStatement k).KeepsFlags := by unfold throwStatement; infer_instance

instance : (debuggerStatement k).KeepsFlags := by unfold debuggerStatement; infer_instance

instance : (labeledStatement k).KeepsFlags := by unfold labeledStatement; infer_instance

instance (word : String) : (wordStatement k word).KeepsFlags := by
  unfold wordStatement
  split <;> infer_instance

instance : (statement k).KeepsFlags := by
  unfold statement
  refine .bind fun _ ↦ ?_
  split
  case h_4 =>
    refine .bind fun _ ↦ ?_
    split <;> infer_instance
  all_goals infer_instance

end Statements

section Programs

variable (d : Dialect) (bound : ℕ)

instance (p : Phrase) : (readPhrase k p).KeepsFlags := by
  cases p <;> (unfold readPhrase; infer_instance)

/-- Phrases keep flags at any depth, as those inside them do. -/
instance (depth : ℕ) (p : Phrase) : (reader d bound depth p).KeepsFlags := by
  induction depth generalizing p with
  | zero => unfold reader; infer_instance
  | succ depth ih =>
    have hkit : Kit.KeepsFlags ⟨d, bound, reader d bound depth⟩ := ⟨ih⟩
    unfold reader
    infer_instance

instance : (statements d bound).KeepsFlags := by unfold statements; infer_instance

instance : interpreterLine.KeepsFlags := by unfold interpreterLine; infer_instance

instance (source : List Char) : (survey.whole d source).KeepsFlags := by
  have hstop (n : Node) [h : Flagged n] (stop : ℕ) : Flagged { n with stop } :=
    flagged_node_iff.mpr (h.node.congr rfl rfl rfl)
  unfold survey.whole
  infer_instance

end Programs

end PackageAudit.Script
