import PackageAudit.Syntax.Walk
import PackageAudit.Text.CodePoint

namespace PackageAudit.Usage

open Syntax

/-- One mention of a module. The text of `statement` is kept as evidence; the line is that of
`mention`. -/
structure Import where
  specifier : Text
  mention : Node
  statement : Node
  names : List Text
  bindings : List Text

variable (source : Text)

/-- The content of a string, or of a template without substitutions. Escapes stay as written. -/
def literal? (n : Node) : Option Text :=
  match n.kind with
  | .string => some content
  | .templateString =>
    if n.namedChildren.any (·.kind = .templateSubstitution) then none else some content
  | _ => none
where
  content : Text := ((n.text source).drop 1).dropLast

structure Names where
  taken : List Text := []
  bound : List Text := []

namespace Names

def append (a b : Names) : Names := ⟨a.taken ++ b.taken, a.bound ++ b.bound⟩

def all (parts : List Names) : Names := parts.foldr append {}

def bind (n : Node) : Names := ⟨[], [n.text source]⟩

def ofSpecifier (n : Node) : Names :=
  match n.kind, n.child? .name with
  | .importSpecifier, some name =>
    ⟨[name.text source], [((n.child? .alias).getD name).text source]⟩
  | _, _ => {}

def ofClausePart (n : Node) : Names :=
  match n.kind with
  | .identifier => bind source n
  | .namespaceImport =>
    all ((n.namedChildren.filter (·.kind = .identifier)).map (bind source))
  | .namedImports => all (n.namedChildren.map (ofSpecifier source))
  | _ => {}

def ofClause (n : Node) : Names := all (n.namedChildren.map (ofClausePart source))

def ofMember (n : Node) : Names :=
  match n.kind with
  | .shorthandPattern => ⟨[n.text source], [n.text source]⟩
  | .objectAssignmentPattern =>
    match n.child? .left with
    | some left => ⟨[left.text source], [left.text source]⟩
    | none => {}
  | .pairPattern =>
    let value := (n.child? .value).bind fun v ↦
      if v.kind = .assignmentPattern then v.child? .left else some v
    ⟨((n.child? .key).map (·.text source)).toList,
      ((value.filter (·.kind = .identifier)).map (·.text source)).toList⟩
  | _ => {}

/-- The names of a declarator's target, where `member` is the property taken from the module. -/
def ofTarget (member : Option Text) (target : Node) : Names :=
  let names : Names :=
    match target.kind, member with
    | .identifier, _ => bind source target
    | .objectPattern, none => all (target.namedChildren.map (ofMember source))
    | _, _ => {}
  append ⟨member.toList, []⟩ names

end Names

def requiredModule? (clause : Node) : Option Node :=
  (clause.child? .source).or (clause.namedChildren.find? (·.kind = .string))

/-- The names with those of one more part of an import statement. An import by assignment binds its
first identifier, unless a name is bound already. -/
def Names.addClause (names : Names) (n : Node) : Names :=
  match n.kind with
  | .importClause => names.append (ofClause source n)
  | .importRequireClause =>
    if names.bound.isEmpty then
      names.append
        ⟨[], ((n.namedChildren.find? (·.kind = .identifier)).map (·.text source)).toList⟩
    else names
  | _ => names

def importedModule? (n : Node) : Option Node :=
  let required := n.namedChildren.filter (·.kind = .importRequireClause)
  (required.getLast?.map requiredModule?).getD (n.child? .source)

def ofImportStatement? (n : Node) : Option Import := do
  let specifier ← (importedModule? n).bind (literal? source)
  let names := n.namedChildren.foldl (Names.addClause source) {}
  return ⟨specifier, n, n, names.taken, names.bound⟩

def ofExportStatement? (n : Node) : Option Import := do
  let specifier ← (n.child? .source).bind (literal? source)
  let clauses := n.namedChildren.filter (·.kind = .exportClause)
  let names := (clauses.flatMap (·.namedChildren)).filterMap fun s ↦
    if s.kind = .exportSpecifier then (s.child? .name).map (·.text source) else none
  return ⟨specifier, n, n, names, []⟩

/-- The declarator whose variable the call gives its value, and the names of its target. The call
may stand behind `await`, and one property of it may be taken. -/
def initialized? (call : Place) : Option (Place × Names) := do
  let awaited := call.parent?.filter (·.node.kind = .awaitExpression)
  let value := awaited.getD call
  let member : Option (Place × Text) := do
    let m ← value.parent?
    guard (m.node.kind = .memberExpression && value.isFieldOfParent .object)
    let property ← m.node.child? .property
    return (m, property.text source)
  let value := (member.map (·.1)).getD value
  let declarator ← value.parent?
  guard (declarator.node.kind = .variableDeclarator && value.isFieldOfParent .value)
  return (declarator,
    ((declarator.node.child? .name).map (Names.ofTarget source (member.map (·.2)))).getD {})

def isLoader (callee : Node) : Bool :=
  callee.kind = .importCallee ||
    (callee.kind = .identifier && callee.text source = Text.ofString "require")

def loaded? (call : Node) : Option Text := do
  let _ ← (call.child? .function).filter (isLoader source)
  let arguments ← call.child? .arguments
  arguments.namedChildren.head?.bind (literal? source)

def ofCall? (p : Place) : Option Import := do
  let specifier ← loaded? source p.node
  match initialized? source p with
  | some (declarator, names) =>
    let declaration := (declarator.parent?.map (·.node)).getD p.node
    return ⟨specifier, p.node, declaration, names.taken, names.bound⟩
  | none => return ⟨specifier, p.node, p.node, [], []⟩

def import? (p : Place) : Option Import :=
  match p.node.kind with
  | .importStatement => ofImportStatement? source p.node
  | .exportStatement => ofExportStatement? source p.node
  | .callExpression => ofCall? source p
  | _ => none

end PackageAudit.Usage
