import PackageAudit.Package.Identifier
import PackageAudit.Package.Specifier
import PackageAudit.Script.Rejection
import PackageAudit.Usage.Evidence
import PackageAudit.Usage.Import

namespace PackageAudit.Usage

open Syntax

/-- What the walk has found so far. A local name is bound to a declared package, or to none. -/
structure Findings where
  extraction : Extraction := {}
  bindings : Keyed (Option Text) := []
  calls : List Node := []

variable (source : Text) (declared : List Text)

/-- What `step` leads to: the object of a member access, or what brackets and assertions enclose. -/
def receiverStep? (n : Node) : Option Node :=
  match n.kind with
  | .memberExpression => n.child? .object
  | .nonNullExpression | .parenthesizedExpression => n.namedChildren.head?
  | _ => none

def rootWithin : (steps : Nat) → Node → Option Node
  | 0, _ => none
  | steps + 1, n =>
    if n.kind = .identifier then some n else (receiverStep? n).bind (rootWithin steps)

def root? (n : Node) : Option Node := rootWithin n.size n

def Import.package? (i : Import) : Option Text :=
  (Package.ofSpecifier? i.specifier).filter declared.contains

def Evidence.addImport (e : Evidence) (i : Import) : Evidence :=
  { e with
    imports := e.imports ++ [i.statement.text source]
    lines := e.lines ++ [(Script.lineAt source i.mention.start : Int)]
    symbols := addSymbols e.symbols i.names }

def Findings.addImport (f : Findings) (i : Import) : Findings :=
  let package := i.package? declared
  let x := { f.extraction with imports := f.extraction.imports + 1 }
  let extraction := match package with
    | none => x
    | some package => x.amend package (·.addImport source i)
  { f with
    extraction
    bindings := i.bindings.foldl (fun b name ↦ b.insert name package) f.bindings }

def isDecisionOperator (n : Node) : Bool :=
  n.kind = .token "&&" || n.kind = .token "||" || n.kind = .token "??"

def isDecision (n : Node) : Bool :=
  match n.kind with
  | .ifStatement | .forStatement | .forInStatement | .whileStatement | .doStatement | .switchCase
  | .catchClause | .ternaryExpression => true
  | .binaryExpression => (n.child? .operator).any isDecisionOperator
  | _ => false

def isFunction (n : Node) : Bool :=
  n.kind = .functionDeclaration || n.kind = .generatorFunctionDeclaration

def isClass (n : Node) : Bool :=
  n.kind = .classDeclaration || n.kind = .abstractClassDeclaration

def isMemberCall (n : Node) : Bool :=
  n.kind = .callExpression && (n.child? .function).any (·.kind = .memberExpression)

def Extraction.countNode (x : Extraction) (n : Node) : Extraction :=
  if isFunction n then { x with functions := x.functions + 1 }
  else if isClass n then { x with classes := x.classes + 1 }
  else if isDecision n then { x with decisionPoints := x.decisionPoints + 1 }
  else x

def Findings.visit (f : Findings) (p : Place) : Findings :=
  match import? source p with
  | some i => f.addImport source declared i
  | none =>
    if isMemberCall p.node then { f with calls := f.calls ++ [p.node] }
    else { f with extraction := f.extraction.countNode p.node }

def rootName? (call : Node) : Option Text :=
  let root := ((call.child? .function).bind (·.child? .object)).bind root?
  (root.map (·.text source)).filter (!·.isEmpty)

/-- The declared package to which a member call belongs: by the binding of its root, or by likeness
of names if the root is not bound. -/
def callPackage? (bindings : Keyed (Option Text)) (call : Node) : Option Text := do
  let name ← rootName? source call
  match bindings.get? name with
  | some package => package
  | none => Package.ofIdentifier? declared name

def methodName (call : Node) : Text :=
  (((call.child? .function).bind (·.child? .property)).map (·.text source)).getD "unknown"

def Evidence.addCall (e : Evidence) (call : Node) : Evidence :=
  { e with
    usages := e.usages ++ [call.text source]
    lines := e.lines ++ [(Script.lineAt source call.start : Int)]
    complexity := e.complexity + 1
    symbols := addSymbol e.symbols (methodName source call) }

def Extraction.addCall (bindings : Keyed (Option Text)) (x : Extraction) (call : Node) :
    Extraction :=
  match callPackage? source declared bindings call with
  | none => x
  | some package => x.amend package (·.addCall source call)

def findings (root : Node) : Findings :=
  (places root).foldl (Findings.visit source declared) {}

/-- The evidence for the declared packages in a tree over the source. The calls are attributed when
all bindings are known, as an import may stand below its first use. -/
def extract (root : Node) : Extraction :=
  let f := findings source declared root
  f.calls.foldl (Extraction.addCall source declared f.bindings) f.extraction

end PackageAudit.Usage
