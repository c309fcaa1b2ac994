import PackageAudit.Script.Pattern

namespace PackageAudit.Script

open Syntax Reader

def typeAscription (k : Kit) (ends : Bool) : Reader Node :=
  phrase (.other "type_annotation") do
    let colon ← token ":"
    return colon ++ (← k.next (.type ends))

def ascription (k : Kit) (ends : Bool) : Reader (List Node) :=
  if k.dialect.isTyped then option (behindOperandGap (typeAscription k ends)) else return []

def typeArguments (k : Kit) : Reader Node :=
  phrase (.other "type_arguments") do
    let open_ ← token "<"
    let types ← separated k (k.next (.type false))
    let comma ← option (nextToken ",")
    return open_ ++ types ++ comma ++ (← nextPiece ">")

def typeParameters (k : Kit) : Reader Node :=
  phrase (.other "type_parameters") do
    let open_ ← token "<"
    let parameters ← separated k (behindOperandGap parameter)
    let comma ← option (nextToken ",")
    return open_ ++ parameters ++ comma ++ (← nextPiece ">")
where
  parameter : Reader Node := constant <|> plain []
  constant : Reader Node := do
    let word ← keyword "const"
    plain (word ++ (← gap))
  plain (before : List Node) : Reader Node :=
    phrase (.other "type_parameter") do
      let name ← nameOf (.other "type_identifier") k
      let bound ← option do
        let word ← nextKeyword "extends" <|> nextToken ":"
        return word ++ (← k.next (.type false))
      let value ← option do
        let equals ← nextToken "="
        return equals ++ (← k.next (.type false))
      return before ++ [name] ++ bound ++ value

def resultAscription (k : Kit) (ends : Bool) : Reader Node :=
  phrase (.other "type_annotation") do
    let colon ← token ":"
    return colon ++ (← behindOperandGap (assertion <|> guard <|> k.read (.type ends)))
where
  subject : Reader Node := nameOf .identifier k
  guard : Reader Node :=
    phrase (.other "type_predicate") do
      let n ← subject
      let is_ ← nextKeyword "is"
      return n :: is_ ++ (← k.next (.type ends))
  assertion : Reader Node :=
    phrase (.other "asserts") do
      let word ← keyword "asserts"
      return word ++ (← behindOperandGap (guard <|> subject))

def modifiers (k : Kit) (words : List String) : Reader (List Node) :=
  many modifier words.length
where
  modifier : Reader (List Node) := do
    let word ← peekWord
    require (words.contains word)
    let n ← leaf (.token word) false word.length
    require !(← endsHere k ⟨false, false⟩)
    let comments ← gap
    require (startsName (← rest))
    return n :: comments
  startsName : List Char → Bool
    | c :: r =>
      wordLength (c :: r) != 0 || isDigit c || ['\x22', '\x27', '[', '*', '\x7b', '#', '@'].contains c ||
        (c = '.' && r.head? = some '.')
    | [] => false

def decoratorTarget (k : Kit) : Reader Node := do
  extend step k.bound (← name k)
where
  step (n : Node) : Reader Node :=
    phrase .memberExpression do
      let point ← nextToken "."
      return n.underField .object :: point ++
        (← underField .property (behindOperandGap propertyWord))

def spread (k : Kit) : Reader Node :=
  phrase (.other "spread_element") do
    let dots ← token "..."
    return dots ++ (← k.next (.expression .enclosed))

def argumentList (k : Kit) : Reader Node :=
  phrase (.other "arguments") do
    let open_ ← token "("
    let items ← sparse k (behindOperandGap (spread k <|> k.read (.expression .enclosed)))
    return open_ ++ items ++ (← nextToken ")")

def decorator (k : Kit) : Reader Node :=
  phrase (.other "decorator") do
    let at_ ← token "@"
    return at_ ++ (← behindOperandGap (applied <|> enclosed))
where
  applied : Reader Node := do
    let target ← decoratorTarget k
    (phrase .callExpression do
      let types ← if k.dialect.isTyped then option (behindOperandGap (typeArguments k)) else pure []
      return target.underField .function :: types ++
        (← underField .arguments (behindOperandGap (argumentList k)))) <|> return target
  enclosed : Reader Node := do
    require k.dialect.isTyped
    phrase .parenthesizedExpression do
      let open_ ← token "("
      let inner ← behindOperandGap applied
      return open_ ++ inner ++ (← nextToken ")")

def decorators (k : Kit) : Reader (List Node) :=
  many (return (← decorator k) :: (← gap)) k.bound

def initializer (k : Kit) (c : Context) : Reader (List Node) := do
  let equals ← nextToken "="
  return equals ++ (← underField .value (k.next (.expression c)))

def parameter (k : Kit) : Reader Node :=
  if k.dialect.isTyped then typed else patternWithDefault k .assignmentPattern target
where
  target : Reader Node := do
    match ← peek with
    | "..." => restPattern k
    | _ => destructuring k <|> name k
  typed : Reader Node :=
    phrase (.other "required_parameter") do
      let applied ← decorators k
      let words ← modifiers k ["public", "private", "protected", "override", "readonly"]
      let n ← target
      let mark ← option (nextPiece "?")
      let type ← ascription k false
      return applied ++ words ++ [n] ++ mark ++ type ++ (← option (initializer k .enclosed))

def parameters (k : Kit) : Reader Node :=
  phrase (.other "formal_parameters") do
    let open_ ← token "("
    let items ← listed k (behindOperandGap (parameter k))
    return open_ ++ items ++ (← nextToken ")")

def signature (k : Kit) (ends : Bool) : Reader (List Node) := do
  if k.dialect.isTyped then
    let types ← option (return (← typeParameters k) :: (← gap))
    let list ← parameters k
    return types ++ [list] ++ (← option (behindOperandGap (resultAscription k ends)))
  else
    return [← parameters k]

end PackageAudit.Script
