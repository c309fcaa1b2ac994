import PackageAudit.Script.Name

namespace PackageAudit.Script

open Syntax Reader

def patternWithDefault (k : Kit) (kind : Kind) (target : Reader Node) : Reader Node := do
  let n ← target
  (phrase kind do
    let equals ← nextToken "="
    return n.underField .left :: equals ++ (← k.next (.expression .enclosed)))
    <|> return n

def restPattern (k : Kit) : Reader Node :=
  phrase (.other "rest_pattern") do
    let dots ← token "..."
    return dots ++ (← k.next .pattern)

def pairPattern (k : Kit) : Reader Node :=
  phrase .pairPattern do
    let key := (← propertyName k).underField .key
    let colon ← nextToken ":"
    let value ← underField .value <| behindOperandGap <|
      patternWithDefault k .assignmentPattern (k.read .pattern)
    return key :: colon ++ value

def objectPattern (k : Kit) : Reader Node :=
  phrase .objectPattern do
    let open_ ← token "\x7b"
    let members ← sparse k (behindOperandGap member)
    return open_ ++ members ++ (← nextToken "\x7d")
where
  shorthand : Reader Node := nameOf .shorthandPattern k
  target : Reader Node := do
    match ← peek with
    | "\x7b" | "[" => k.read .pattern
    | _ => shorthand
  withDefault : Reader Node :=
    phrase .objectAssignmentPattern do
      let left := (← target).underField .left
      let equals ← nextToken "="
      return left :: equals ++ (← k.next (.expression .enclosed))
  member : Reader Node :=
    pairPattern k <|> restPattern k <|> withDefault <|> shorthand

def arrayPattern (k : Kit) : Reader Node :=
  phrase (.other "array_pattern") do
    let open_ ← token "["
    let items ← sparse k <| behindOperandGap <|
      patternWithDefault k .assignmentPattern (k.read .pattern)
    return open_ ++ items ++ (← nextToken "]")

def destructuring (k : Kit) : Reader Node := do
  match ← peek with
  | "\x7b" => objectPattern k
  | "[" => arrayPattern k
  | _ => failure

def bindingTarget (k : Kit) : Reader Node := destructuring k <|> name k

def placePattern (k : Kit) : Reader Node := do
  let word ← peekWord
  let base ←
    if word == "this" || word == "super" then leaf (.other word) true word.length
    else name k
  extend step k.bound base
where
  step (n : Node) : Reader Node := do
    let comments ← gap
    match ← peek with
    | "." => phrase .memberExpression do
      let point ← token "."
      return n.underField .object :: comments ++ point ++
        (← underField .property (behindOperandGap memberName))
    | "[" => phrase (.other "subscript_expression") do
      let open_ ← token "["
      let index ← k.next (.expression .enclosed)
      return n.underField .object :: comments ++ open_ ++ index ++ (← nextToken "]")
    | _ => failure

def pattern (k : Kit) : Reader Node := do
  match ← peek with
  | "..." => restPattern k
  | "\x7b" | "[" => destructuring k
  | _ => placePattern k

end PackageAudit.Script
