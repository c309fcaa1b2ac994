import PackageAudit.Script.Ascription

namespace PackageAudit.Script.TypeExpr

open Syntax Reader

def onward (k : Kit) (ends : Bool) : Reader (List Node) := do
  require !(ends && (← endsHere k ⟨false, false⟩))
  gap

def word (kind : Kind) : Reader Node := do
  let w ← peekWord
  require (w != "")
  leaf kind true w.length

def named (k : Kit) : Reader Node := do
  let base ← extend member k.bound (← word (.other "type_identifier"))
  (phrase (.other "generic_type") do
    return base :: (← behindOperandGap (typeArguments k))) <|> return base
where
  member (n : Node) : Reader Node :=
    phrase (.other "nested_type_identifier") do
      let point ← nextToken "."
      return n :: point ++ (← behindOperandGap (word (.other "type_identifier")))

def importCall (k : Kit) : Reader Node :=
  phrase .callExpression do
    let callee ← keyword "import"
    let callee := callee.map fun n ↦ { n with kind := .importCallee, named := true }
    return (callee.map (·.underField .function)) ++
      (← underField .arguments (behindOperandGap (argumentList k)))

def memberOf (n : Node) : Reader Node :=
  phrase .memberExpression do
    let point ← nextToken "." <|> nextToken "?."
    return n.underField .object :: point ++ (← underField .property (behindOperandGap memberName))

def queried (k : Kit) : Reader Node := do
  let base ← importCall k <|> word .identifier
  let chain ← extend (fun n ↦ memberOf n <|> subscript n <|> call n) k.bound base
  (phrase (.other "instantiation_expression") do
    return chain :: (← behindOperandGap (typeArguments k))) <|> return chain
where
  subscript (n : Node) : Reader Node :=
    phrase (.other "subscript_expression") do
      let open_ ← nextToken "["
      let index ← behindOperandGap (string <|> number <|> word (.other "predefined_type"))
      return n.underField .object :: open_ ++ index ++ (← nextToken "]")
  call (n : Node) : Reader Node :=
    phrase .callExpression do
      return n.underField .function ::
        (← underField .arguments (behindOperandGap (argumentList k)))

def query (k : Kit) : Reader Node :=
  phrase (.other "type_query") do
    let w ← keyword "typeof"
    return w ++ (← behindOperandGap (queried k))

def functionType (k : Kit) (ends : Bool) : Reader Node :=
  phrase (.other "function_type") do
    let abstract_ ← option (return (← keyword "abstract") ++ (← gap))
    let new_ ← option (return (← keyword "new") ++ (← gap))
    require (abstract_.isEmpty || !new_.isEmpty)
    let types ← option (return (← typeParameters k) :: (← gap))
    let list ← parameters k
    let arrow ← nextToken "=>"
    return abstract_ ++ new_ ++ types ++ [list] ++ arrow ++ (← behindOperandGap result)
where
  result : Reader Node := do
    let colonless := resultAscription.assertion k ends <|> resultAscription.guard k ends
    colonless <|> k.read (.type ends)

def tuple (k : Kit) : Reader Node :=
  phrase (.other "tuple_type") do
    let open_ ← token "["
    let members ← listed k (behindOperandGap (labelled <|> restType <|> plain))
    return open_ ++ members ++ (← nextToken "]")
where
  labelled : Reader Node :=
    phrase (.other "required_parameter") do
      let n ← restPattern k <|> nameOf .identifier k
      let mark ← option (nextPiece "?")
      return n :: mark ++ (← behindOperandGap (typeAscription k false))
  restType : Reader Node :=
    phrase (.other "rest_type") do
      let dots ← token "..."
      return dots ++ (← k.next (.type false))
  plain : Reader Node := do
    let n ← k.read (.type false)
    (phrase (.other "optional_type") do return n :: (← nextPiece "?")) <|> return n

def indexAscription (k : Kit) (ends : Bool) : Reader Node :=
  phrase (.other "type_annotation") do
    let sign ← piece ":" <|> piece "?:" <|> piece "-?:" <|> piece "+?:"
    return sign ++ (← k.next (.type ends))

def indexSignature (k : Kit) : Reader Node :=
  phrase (.other "index_signature") do
    let readonly_ ← option do
      let sign ← option (piece "-" <|> piece "+")
      return sign ++ (← nextKeyword "readonly") ++ (← gap)
    let open_ ← token "["
    let clause ← behindOperandGap (phrase (.other "index_clause") (mapped <|> keyed))
    let close ← nextToken "]"
    return readonly_ ++ open_ ++ clause ++ close ++ (← behindOperandGap (indexAscription k true))
where
  mapped : Reader (List Node) := do
    let n ← word (.other "type_identifier")
    let in_ ← nextKeyword "in"
    let type ← k.next (.type false)
    return n :: in_ ++ type ++ (← option do
      let as_ ← nextKeyword "as"
      return as_ ++ (← k.next (.type false)))
  keyed : Reader (List Node) := do
    let n ← word .identifier
    let colon ← nextToken ":"
    return n :: colon ++ (← k.next (.type false))

def typeMember (k : Kit) : Reader Node :=
  callSignature <|> constructSignature <|> indexSignature k <|> property
where
  callSignature : Reader Node :=
    phrase (.other "call_signature") (signature k true)
  constructSignature : Reader Node :=
    phrase (.other "construct_signature") do
      let abstract_ ← option (return (← keyword "abstract") ++ (← gap))
      let new_ ← keyword "new"
      return abstract_ ++ new_ ++ (← behind (signature k true))
  property : Reader Node :=
    phrase (.other "property_signature") do
      let words ← modifiers k ["public", "private", "protected", "static", "override", "readonly",
        "async", "get", "set"]
      let star ← option (return (← token "*") ++ (← gap))
      let n ← propertyName k
      let mark ← option (nextPiece "?")
      return words ++ star ++ [n] ++ mark ++
        (← behind (signature k true) <|> ascription k true)

def objectType (k : Kit) : Reader Node :=
  phrase (.other "object_type") do
    let open_ ← piece "\x7b|" <|> piece "\x7b"
    let lead ← option (nextToken "," <|> nextToken ";")
    let members ← many item k.bound
    return open_ ++ lead ++ members ++ (← nextPiece "|\x7d" <|> nextPiece "\x7d")
where
  item : Reader (List Node) := do
    let member ← behindOperandGap (typeMember k)
    return member ++ (← nextToken "," <|> terminator k ⟨false, false⟩ <|> atEnd)
  atEnd : Reader (List Node) := do
    discard <| look (nextPiece "\x7d" <|> nextPiece "|\x7d")
    return []

def literalTemplate (k : Kit) : Reader Node :=
  templateOf (.other "template_literal_type") substitution k.bound
where
  substitution : Reader Node :=
    phrase (.other "template_type") do
      let open_ ← piece "$\x7b"
      let type ← k.next (.type false)
      return open_ ++ type ++ (← nextToken "\x7d")

def literal : Reader Node :=
  phrase (.other "literal_type") do
    let sign ← option (return (← token "-" <|> token "+") ++ (← gap))
    if sign.isEmpty then return [← string <|> number] else return sign ++ [← number]

def primary (k : Kit) (ends : Bool) : Reader Node := do
  match ← peek with
  | "(" => phrase (.other "parenthesized_type") do
    let open_ ← token "("
    let type ← k.next (.type false)
    return open_ ++ type ++ (← nextToken ")")
  | "[" => tuple k
  | "\x7b" => objectType k
  | "*" => leaf (.other "existential_type") true 1
  | "?" => phrase (.other "flow_maybe_type") do
    let mark ← token "?"
    return mark ++ (← k.next (.type ends))
  | _ =>
    match ← peekWord with
    | "typeof" => query k
    | "keyof" => operator "keyof"
    | "unique" => unique <|> named k
    | "import" => failure
    | "" => literal <|> literalTemplate k
    | _ => named k
where
  operator (text : String) : Reader Node :=
    phrase (.other "index_type_query") do
      let w ← keyword text
      return w ++ (← behindOperandGap (postfixed k ends))
  unique : Reader Node :=
    phrase (.other "predefined_type") do
      let w ← keyword "unique"
      return w ++ (← nextKeyword "symbol")
  postfixed (k : Kit) (ends : Bool) : Reader Node := k.read (.type ends)

def postfixed (k : Kit) (ends : Bool) : Reader Node :=
  imported <|> functionType k ends <|> infer <|> readonly_ <|>
    (do extend brackets k.bound (← primary k ends))
where
  imported : Reader Node := do extend memberOf k.bound (← importCall k)
  infer : Reader Node :=
    phrase (.other "infer_type") do
      let w ← keyword "infer"
      let n ← behindOperandGap (word (.other "type_identifier"))
      return w ++ n
  readonly_ : Reader Node :=
    phrase (.other "readonly_type") do
      let w ← keyword "readonly"
      return w ++ (← k.next (.type ends))
  brackets (n : Node) : Reader Node :=
    phrase (.other "lookup_type") do
      let comments ← onward k ends
      let open_ ← token "["
      let index ← option (k.next (.type false))
      return n :: comments ++ open_ ++ index ++ (← nextToken "]")

def joined (operator : String) (operand : Reader Node) (k : Kit) (ends : Bool) : Reader Node := do
  let lead ← option (return (← token operator) ++ (← gap))
  let head ← operand
  let tail ← many more k.bound
  if lead.isEmpty && tail.isEmpty then return head
  else join (.other "union_type") (lead ++ [head] ++ tail)
where
  more : Reader (List Node) := do
    let comments ← onward k ends
    let op ← token operator
    return comments ++ op ++ (← behindOperandGap operand)

def type (k : Kit) (ends : Bool) : Reader Node := do
  let left ← joined "|" (joined "&" (postfixed k ends) k ends) k ends
  (phrase (.other "conditional_type") do
    let comments ← onward k ends
    let extends_ ← keyword "extends"
    let right ← k.next (.type false)
    let mark ← nextPiece "?"
    let yes ← k.next (.type false)
    let colon ← nextToken ":"
    return left :: comments ++ extends_ ++ right ++ mark ++ yes ++ colon ++
      (← k.next (.type ends))) <|> return left

end PackageAudit.Script.TypeExpr
