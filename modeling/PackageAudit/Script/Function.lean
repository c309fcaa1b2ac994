import PackageAudit.Script.Ascription

namespace PackageAudit.Script

open Syntax Reader

inductive BodyRule where
  | required
  | optionalIfTyped
deriving DecidableEq

def function (k : Kit) (rule : BodyRule) : Reader Node := do
  let async_ ← option (return (← keyword "async") ++ (← gap))
  let word ← keyword "function"
  let star ← option (nextToken "*")
  let named ← option (underField .name (behindOperandGap (name k)))
  let shape ← behind (signature k true)
  let declared := !(named.filter (·.named)).isEmpty
  let head := async_ ++ word ++ star ++ named ++ shape
  let kind :=
    if !declared then .other "function_expression"
    else if star.isEmpty then .functionDeclaration
    else .generatorFunctionDeclaration
  (do join kind (head ++ (← k.next .block))) <|> do
    require (rule = .optionalIfTyped && declared && k.dialect.isTyped && star.isEmpty)
    join (.other "function_signature") (head ++ (← terminator k ⟨false, true⟩))

def functionExpression (k : Kit) : Reader Node :=
  return (← function k .required).withKind (.other "function_expression")

def arrowBody (k : Kit) (c : Context) : Reader Node := do
  if (← peek) == "\x7b" then k.read .block <|> k.read (.expression c)
  else k.read (.expression c)

def arrow (k : Kit) (c : Context) : Reader Node :=
  phrase (.other "arrow_function") do
    let async_ ← option do
      let word ← keyword "async"
      require !(c.ends && (← endsHere k ⟨true, false⟩))
      return word ++ (← gap)
    let shape ← signature k false
    let arrow ← nextToken "=>"
    return async_ ++ shape ++ arrow ++ (← behindOperandGap (arrowBody k c))

def bareArrow (k : Kit) (c : Context) : Reader Node :=
  phrase (.other "arrow_function") do
    let async_ ← option do
      let word ← keyword "async"
      require !(c.ends && (← endsHere k ⟨true, false⟩))
      let comments ← gap
      require (isName k.dialect (← peekWord))
      return word ++ comments
    let n ← name k
    let comments ← onwardGap k c
    let arrow ← token "=>"
    return async_ ++ [n] ++ comments ++ arrow ++ (← behindOperandGap (arrowBody k c))

def staticBlock (k : Kit) : Reader Node :=
  phrase (.other "class_static_block") do
    let word ← keyword "static"
    return word ++ (← k.next .block)

def modifierRank : String → Nat
  | "public" | "private" | "protected" | "declare" => 0
  | "static" => 1
  | "override" => 2
  | "readonly" => 3
  | "async" => 4
  | _ => 5

/-- Whether modifiers stand in order, where `abstract` may stand anywhere and `accessor` only behind
those of access. -/
def inOrder (words : List String) : Bool :=
  let ranks := (words.filter (· != "abstract")).map modifierRank
  ranks.zip (ranks.drop 1) |>.all fun (a, b) ↦ a ≤ b && (a < b || a = 0)

def wordsOf (ns : List Node) : List String :=
  ns.filterMap fun n ↦ match n.kind with
    | .token t => some t
    | _ => none

def memberModifiers (k : Kit) : List String :=
  if k.dialect.isTyped then
    ["public", "private", "protected", "declare", "static", "override", "readonly", "abstract",
      "async", "get", "set", "accessor"]
  else ["static", "async", "get", "set"]

def classMember (k : Kit) : Reader (List Node) := do
  let applied ← decorators k
  let words ← modifiers k (memberModifiers k)
  require (inOrder (wordsOf words))
  require (!(wordsOf words).contains "accessor" ||
    (wordsOf words).all fun w ↦ w = "accessor" || modifierRank w = 0)
  let star ← option (return (← token "*") ++ (← gap))
  if k.dialect.isTyped then
    let index ← option (return [← indexed])
    if !index.isEmpty then return applied ++ words ++ index ++ (← finish false)
  let n := (← propertyName k).underField .name
  let mark ← if k.dialect.isTyped then option (nextPiece "?" <|> nextToken "!") else pure []
  let head := applied ++ words ++ star ++ [n] ++ mark
  method head <|> do
    require ((star ++ words.filter fun w ↦
      [.token "async", .token "get", .token "set"].contains w.kind).isEmpty)
    let type ← ascription k true
    let value ← option (initializer k .statement)
    let field ← join (.other "field_definition") (head ++ type ++ value)
    return field :: (← finish (!value.isEmpty))
where
  finish (afterOperand : Bool) : Reader (List Node) := do
    if k.dialect.isTyped then nextToken "," <|> terminator k ⟨afterOperand, false⟩
    else terminator k ⟨afterOperand, false⟩
  indexed : Reader Node :=
    phrase (.other "index_signature") do
      let open_ ← token "["
      let key ← behindOperandGap (name k)
      let colon ← nextToken ":"
      let type ← k.next (.type false)
      let close ← nextToken "]"
      return open_ ++ key ++ colon ++ type ++ close ++
        (← behindOperandGap (typeAscription k true))
  method (head : List Node) : Reader (List Node) := do
    let shape ← behind (signature k true)
    (do
      let body ← k.next .block
      let n ← join (.other "method_definition") (head ++ shape ++ body)
      if k.dialect.isTyped then return n :: (← option (terminator k ⟨false, false⟩))
      else return n :: (← option (nextToken ";"))) <|> do
        require k.dialect.isTyped
        let n ← join (.other "method_signature") (head ++ shape)
        return n :: (← nextToken "," <|> terminator k ⟨false, true⟩)

def classBody (k : Kit) : Reader Node :=
  phrase (.other "class_body") do
    let open_ ← token "\x7b"
    let members ← many (return (← operandGap) ++
      (← token ";" <|> (return [← staticBlock k]) <|> classMember k)) k.bound
    return open_ ++ members ++ (← nextToken "\x7d")

def heritage (k : Kit) : Reader (List Node) := do
  if k.dialect.isTyped then
    let extends_ ← option do
      let word ← nextKeyword "extends"
      return word ++ (← separated k (behindOperandGap base))
    let implements ← option do
      let word ← nextKeyword "implements"
      return word ++ (← separated k (k.next (.type false)))
    return extends_ ++ implements
  else option do
    let word ← nextKeyword "extends"
    return word ++ (← k.next (.expression .enclosed))
where
  base : Reader Node := applied <|> k.read (.operation .enclosed 0)
  applied : Reader Node :=
    phrase (.other "instantiation_expression") do
      let n ← k.read (.operand .enclosed)
      let types ← behindOperandGap (typeArguments k)
      require ((← peekNext) != "(")
      return n :: types

def classFrom (k : Kit) (kind : Kind) (before : List Node) (anonymous : Bool) : Reader Node :=
  phrase kind do
    let word ← keyword "class"
    let named ← if anonymous then option className else className
    let types ← if k.dialect.isTyped then option (behindOperandGap (typeParameters k)) else pure []
    let bases ← heritage k
    return before ++ word ++ named ++ types ++ bases ++ (← behindOperandGap (classBody k))
where
  className : Reader (List Node) := underField .name <| behindOperandGap do
    require ((← peekWord) != "extends" && (← peekWord) != "implements")
    name k

def classExpression (k : Kit) : Reader Node := do
  let applied ← decorators k
  classFrom k (.other "class") applied true

end PackageAudit.Script
