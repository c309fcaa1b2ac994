namespace PackageAudit.Syntax

/-- The kinds of node that the analysis tells apart. A token has its own text as kind. -/
inductive Kind where
  | importStatement | importClause | importRequireClause | namespaceImport | namedImports
  | importSpecifier | exportStatement | exportClause | exportSpecifier
  | callExpression | memberExpression | importCallee | identifier | string
  | templateString | templateSubstitution | nonNullExpression | parenthesizedExpression
  | awaitExpression | variableDeclarator | objectPattern | shorthandPattern
  | objectAssignmentPattern | pairPattern | assignmentPattern
  | functionDeclaration | generatorFunctionDeclaration | classDeclaration
  | abstractClassDeclaration | binaryExpression | ifStatement | forStatement | forInStatement
  | whileStatement | doStatement | switchCase | catchClause | ternaryExpression
  | comment | error
  | token (text : String)
  | other (name : String)
deriving DecidableEq, Inhabited

inductive Field where
  | source | name | alias | function | arguments | object | property | operator | value | key
  | left
deriving DecidableEq

/-- A missing node stands for a token that the source lacks. A faulty node is an error, is missing,
or has a faulty descendant. -/
structure Node where
  kind : Kind
  named : Bool
  field : Option Field
  start : Nat
  stop : Nat
  missing : Bool
  faulty : Bool
  children : List Node
deriving Inhabited

namespace Node

def ofChildren (kind : Kind) (children : List Node) : Node where
  kind
  named := true
  field := none
  start := (children.head?.map (·.start)).getD 0
  stop := (children.getLast?.map (·.stop)).getD 0
  missing := false
  faulty := kind = .error || children.any (·.faulty)
  children

def leaf (kind : Kind) (named : Bool) (start stop : Nat) : Node where
  kind
  named
  field := none
  start
  stop
  missing := false
  faulty := kind = .error
  children := []

def token (text : String) (start stop : Nat) : Node := leaf (.token text) false start stop

def absent (text : String) (place : Nat) : Node :=
  { token text place place with missing := true, faulty := true }

def underField (f : Field) (n : Node) : Node := { n with field := some f }

def withKind (kind : Kind) (n : Node) : Node := { n with kind }

def child? (n : Node) (f : Field) : Option Node := n.children.find? (·.field = some f)

def namedChildren (n : Node) : List Node := n.children.filter (·.named)

def text {α : Type} (source : List α) (n : Node) : List α :=
  (source.drop n.start).take (n.stop - n.start)

end Node

end PackageAudit.Syntax
