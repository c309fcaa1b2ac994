import PackageAudit.Script.Linkage
import PackageAudit.Script.TypeExpr

namespace PackageAudit.Script

open Syntax Reader

def block (k : Kit) : Reader Node :=
  phrase (.other "statement_block") do
    let open_ ← token "\x7b"
    let body ← many (k.next .statement) k.bound
    return open_ ++ body ++ (← nextToken "\x7d")

def expressionStatement (k : Kit) : Reader Node :=
  phrase (.other "expression_statement") do
    let n ← sequence k .statement
    return n :: (← terminator k ⟨true, false⟩)

def variableDeclarator (k : Kit) : Reader Node :=
  phrase .variableDeclarator do
    let target := (← bindingTarget k).underField .name
    let mark ← if k.dialect.isTyped then option definite else pure []
    let type ← ascription k true
    return target :: mark ++ type ++ (← option (initializer k .statement))
where
  definite : Reader (List Node) := do
    let mark ← nextToken "!"
    require ((← peekNext) == ":")
    return mark

def declarationWord (k : Kit) : Reader (List Node) := do
  match ← peekWord with
  | "var" => keyword "var"
  | "const" => keyword "const"
  | "let" => bindingWord "let"
  | "using" => do require !k.dialect.isTyped; bindingWord "using"
  | "await" => do
    require !k.dialect.isTyped
    return (← keyword "await") ++ (← behind (bindingWord "using"))
  | _ => failure
where
  /-- A word that may also name a variable: the statement must not end behind it. -/
  bindingWord (text : String) : Reader (List Node) := do
    let word ← keyword text
    require !(← endsHere k ⟨true, false⟩)
    return word

def declarators (k : Kit) : Reader (List Node) :=
  separated k (behindOperandGap (variableDeclarator k))

def variableDeclaration (k : Kit) : Reader Node :=
  phrase (.other "lexical_declaration") do
    let word ← declarationWord k
    let items ← declarators k
    return word ++ items ++ (← terminator k ⟨true, false⟩)

def classDeclaration (k : Kit) (applied : List Node) : Reader Node := do
  match ← peekWord with
  | "class" => classFrom k .classDeclaration applied false
  | "abstract" => do
    require k.dialect.isTyped
    let word ← keyword "abstract"
    let comments ← gap
    classFrom k .abstractClassDeclaration (applied ++ word ++ comments) false
  | _ => failure

def interfaceDeclaration (k : Kit) : Reader Node :=
  phrase (.other "interface_declaration") do
    let word ← keyword "interface"
    let n ← behindOperandGap (name k)
    let types ← option (behindOperandGap (typeParameters k))
    let bases ← option do
      let extends_ ← nextKeyword "extends"
      return extends_ ++ (← separated k (behindOperandGap (TypeExpr.named k)))
    return word ++ n ++ types ++ bases ++ (← behindOperandGap (TypeExpr.objectType k))

def enumDeclaration (k : Kit) : Reader Node :=
  phrase (.other "enum_declaration") do
    let const_ ← option (return (← keyword "const") ++ (← gap))
    let word ← keyword "enum"
    let n ← behindOperandGap (name k)
    let open_ ← nextToken "\x7b"
    let members ← listed k (behindOperandGap member)
    return const_ ++ word ++ n ++ open_ ++ members ++ (← nextToken "\x7d")
where
  member : Reader Node :=
    phrase (.other "enum_assignment") do
      let n ← propertyName k
      return n :: (← option (initializer k .enclosed))

def typeAlias (k : Kit) : Reader Node :=
  phrase (.other "type_alias_declaration") do
    let word ← keyword "type"
    require !(← endsHere k ⟨true, false⟩)
    let n ← behindOperandGap (name k)
    let types ← option (behindOperandGap (typeParameters k))
    let equals ← nextToken "="
    let type ← k.next (.type true)
    return word ++ n ++ types ++ equals ++ type ++ (← terminator k ⟨false, false⟩)

def moduleDeclaration (k : Kit) : Reader Node :=
  phrase (.other "module") do
    let word ← keyword "namespace" <|> keyword "module"
    require !(← endsHere k ⟨true, false⟩)
    let n ← behindOperandGap (string <|> decoratorTarget k)
    return word ++ n ++ (← option (k.next .block))

def typedDeclaration (k : Kit) (inner : Reader Node) : Reader Node := do
  require k.dialect.isTyped
  match ← peekWord with
  | "interface" => interfaceDeclaration k
  | "enum" | "const" => enumDeclaration k
  | "type" => typeAlias k
  | "namespace" | "module" => moduleDeclaration k
  | "import" => importAlias k
  | "declare" => ambient
  | _ => failure
where
  ambient : Reader Node :=
    phrase (.other "ambient_declaration") do
      let word ← keyword "declare"
      require !(← endsHere k ⟨true, false⟩)
      return word ++ (← behind (global <|> return [← inner]))
  global : Reader (List Node) := do
    let word ← keyword "global"
    return word ++ (← k.next .block)

def plainDeclaration (k : Kit) : Reader Node := do
  match ← peekWord with
  | "function" => functionDeclaration
  | "async" => functionDeclaration
  | "class" | "abstract" => classDeclaration k []
  | "" => do
    let applied ← decorators k
    require !applied.isEmpty
    classDeclaration k applied
  | _ => typedDeclaration k failure <|> variableDeclaration k
where
  functionDeclaration : Reader Node := do
    let n ← function k .optionalIfTyped
    require (n.kind != .other "function_expression")
    return n

def declaration (k : Kit) : Reader Node :=
  typedDeclaration k (plainDeclaration k) <|> plainDeclaration k

def condition (k : Kit) : Reader (List Node) := behindOperandGap do
  phrase .parenthesizedExpression do
    let open_ ← token "("
    let inner ← enclosedSequence k
    return open_ ++ inner ++ (← nextToken ")")

def ifStatement (k : Kit) : Reader Node :=
  phrase .ifStatement do
    let word ← keyword "if"
    let test ← condition k
    let yes ← k.next .statement
    let no ← option (behindOperandGap alternative)
    return word ++ test ++ yes ++ no
where
  alternative : Reader Node :=
    phrase (.other "else_clause") do
      let word ← keyword "else"
      return word ++ (← k.next .statement)

def switchStatement (k : Kit) : Reader Node :=
  phrase (.other "switch_statement") do
    let word ← keyword "switch"
    let value ← condition k
    return word ++ value ++ (← behindOperandGap body)
where
  body : Reader Node :=
    phrase (.other "switch_body") do
      let open_ ← token "\x7b"
      let cases ← many (behindOperandGap (case_ <|> default_)) k.bound
      return open_ ++ cases ++ (← nextToken "\x7d")
  statements : Reader (List Node) := many (do
    let comments ← operandGap
    require !(["case", "default"].contains (← peekWord))
    return comments ++ [← k.read .statement]) k.bound
  case_ : Reader Node :=
    phrase .switchCase do
      let word ← keyword "case"
      let value ← behindOperandGap (sequence k ⟨false, false⟩)
      let colon ← nextToken ":"
      return word ++ value ++ colon ++ (← statements)
  default_ : Reader Node :=
    phrase (.other "switch_default") do
      let word ← keyword "default"
      let colon ← nextToken ":"
      return word ++ colon ++ (← statements)

def forInStatement (k : Kit) : Reader Node :=
  phrase .forInStatement do
    let word ← keyword "for"
    let await_ ← option (nextKeyword "await")
    let open_ ← nextToken "("
    let left ← behind (declared <|> target)
    let op ← nextKeyword "in" <|> nextKeyword "of"
    let right ← enclosedSequence k
    let close ← nextToken ")"
    return word ++ await_ ++ open_ ++ left ++ op ++ right ++ close ++ (← k.next .statement)
where
  declared : Reader (List Node) := do
    let word ← declarationWord k
    let n ← behindOperandGap (bindingTarget k)
    let value ← if wordsOf word = ["var"] then option (initializer k .enclosed) else pure []
    return word ++ n ++ value
  target : Reader (List Node) := do
    let n ← destructuring k <|> parenthesized k <|> constructionTarget k .enclosed (primary k .enclosed)
    require (isAssignable n || n.kind = .objectPattern || n.kind = .other "array_pattern")
    return [n]

def forStatement (k : Kit) : Reader Node :=
  phrase .forStatement do
    let word ← keyword "for"
    let open_ ← nextToken "("
    let first ← behindOperandGap (variableDeclaration k) <|> clause
    let test ← clause
    let step ← option (enclosedSequence k)
    let close ← nextToken ")"
    return word ++ open_ ++ first ++ test ++ step ++ close ++ (← k.next .statement)
where
  clause : Reader (List Node) := do
    let n ← option (enclosedSequence k)
    return n ++ (← nextToken ";")

def whileStatement (k : Kit) (kind : Kind) (opening : String) : Reader Node :=
  phrase kind do
    let word ← keyword opening
    let test ← condition k
    return word ++ test ++ (← k.next .statement)

def doStatement (k : Kit) : Reader Node :=
  phrase .doStatement do
    let word ← keyword "do"
    let body ← k.next .statement
    let while_ ← nextKeyword "while"
    let test ← condition k
    return word ++ body ++ while_ ++ test ++ (← option (terminator k ⟨false, false⟩))

def tryStatement (k : Kit) : Reader Node :=
  phrase (.other "try_statement") do
    let word ← keyword "try"
    let body ← k.next .block
    let handler ← option (behindOperandGap catchClause)
    let finalizer ← option (behindOperandGap finallyClause)
    return word ++ body ++ handler ++ finalizer
where
  catchClause : Reader Node :=
    phrase .catchClause do
      let word ← keyword "catch"
      let caught ← option do
        let open_ ← nextToken "("
        let n ← behindOperandGap (bindingTarget k)
        let type ← ascription k false
        return open_ ++ n ++ type ++ (← nextToken ")")
      return word ++ caught ++ (← k.next .block)
  finallyClause : Reader Node :=
    phrase (.other "finally_clause") do
      let word ← keyword "finally"
      return word ++ (← k.next .block)

def jumpStatement (k : Kit) (text : String) : Reader Node :=
  phrase (.other (text ++ "_statement")) do
    let word ← keyword text
    let label ← option do
      require !(← endsHere k ⟨false, false⟩)
      behindOperandGap (nameOf (.other "statement_identifier") k)
    return word ++ label ++ (← terminator k ⟨false, false⟩)

def returnStatement (k : Kit) : Reader Node :=
  phrase (.other "return_statement") do
    let word ← keyword "return"
    let value ← option do
      require !(← endsHere k ⟨false, false⟩)
      behindOperandGap (sequence k .statement)
    return word ++ value ++ (← terminator k ⟨!value.isEmpty, false⟩)

def throwStatement (k : Kit) : Reader Node :=
  phrase (.other "throw_statement") do
    let word ← keyword "throw"
    let value ← behindOperandGap (sequence k .statement)
    return word ++ value ++ (← terminator k ⟨true, false⟩)

def debuggerStatement (k : Kit) : Reader Node :=
  phrase (.other "debugger_statement") do
    let word ← keyword "debugger"
    return word ++ (← terminator k ⟨false, false⟩)

def labeledStatement (k : Kit) : Reader Node :=
  phrase (.other "labeled_statement") do
    let label ← nameOf (.other "statement_identifier") k
    let colon ← nextToken ":"
    return label :: colon ++ (← k.next .statement)

/-- Words that open a statement and that no expression starts with. -/
def statementWords (d : Dialect) : List String :=
  ["if", "switch", "for", "while", "do", "try", "with", "break", "continue", "return", "throw",
    "debugger", "var", "const", "else"] ++
    if d.isTyped then ["interface", "enum", "abstract"] else []

def wordStatement (k : Kit) (word : String) : Reader Node := do
  match word with
  | "if" => ifStatement k
  | "switch" => switchStatement k
  | "for" => forInStatement k <|> forStatement k
  | "while" => whileStatement k .whileStatement "while"
  | "with" => whileStatement k (.other "with_statement") "with"
  | "do" => doStatement k
  | "try" => tryStatement k
  | "break" => jumpStatement k "break"
  | "continue" => jumpStatement k "continue"
  | "return" => returnStatement k
  | "throw" => throwStatement k
  | "debugger" => debuggerStatement k
  | "import" => importStatement k <|> declaration k <|> expressionStatement k
  | "export" => exportStatement k [] (declaration k) <|> expressionStatement k
  | _ => do
    if statementWords k.dialect |>.contains word then declaration k
    else declaration k <|> labeledStatement k <|> expressionStatement k

def statement (k : Kit) : Reader Node := do
  match ← peek with
  | "\x7b" => block k <|> expressionStatement k
  | ";" => phrase (.other "empty_statement") (token ";")
  | "@" => do
    (do
      let applied ← decorators k
      exportStatement k applied (declaration k) <|> classDeclaration k applied) <|>
      expressionStatement k
  | _ =>
    match ← peekWord with
    | "" => expressionStatement k
    | word => wordStatement k word

end PackageAudit.Script
