import PackageAudit.Script.Function
import PackageAudit.Script.Element

namespace PackageAudit.Script

open Syntax Reader

def sequence (k : Kit) (c : Context) : Reader Node := do
  let head ← k.read (.expression c)
  let tail ← many (do
    let comments ← onwardGap k c
    let comma ← token ","
    return comments ++ comma ++ (← k.next (.expression c))) k.bound
  if tail.isEmpty then return head
  else join (.other "sequence_expression") (head :: tail)

def enclosedSequence (k : Kit) : Reader (List Node) := behindOperandGap (sequence k .enclosed)

def parenthesized (k : Kit) : Reader Node :=
  phrase .parenthesizedExpression do
    let open_ ← token "("
    let inner ← enclosedSequence k
    let type ← ascription k false
    return open_ ++ inner ++ type ++ (← nextToken ")")

def array (k : Kit) : Reader Node :=
  phrase (.other "array") do
    let open_ ← token "["
    let items ← sparse k (behindOperandGap (spread k <|> k.read (.expression .enclosed)))
    return open_ ++ items ++ (← nextToken "]")

def object (k : Kit) : Reader Node :=
  phrase (.other "object") do
    let open_ ← token "\x7b"
    let members ← sparse k (behindOperandGap (spread k <|> member))
    return open_ ++ members ++ (← nextToken "\x7d")
where
  member : Reader Node :=
    property <|> nameOf (.other "shorthand_property_identifier") k
  property : Reader Node := do
    let applied ← decorators k
    let words ← modifiers k (["static", "async", "get", "set"] ++
      if k.dialect.isTyped then ["public", "private", "protected", "override", "readonly"] else [])
    let star ← option (return (← token "*") ++ (← gap))
    let n ← propertyName k
    let mark ← if k.dialect.isTyped then option (nextPiece "?") else pure []
    let before := applied ++ words ++ star
    method (before ++ [n] ++ mark) <|> do
      require (before ++ mark).isEmpty
      pair n
  method (head : List Node) : Reader Node :=
    phrase (.other "method_definition") do
      let shape ← behind (signature k false)
      return head ++ shape ++ (← k.next .block)
  pair (key : Node) : Reader Node :=
    phrase (.other "pair") do
      let colon ← nextToken ":"
      return key.underField .key :: colon ++
        (← underField .value (k.next (.expression .enclosed)))

def importOperand (k : Kit) : Reader Node := call <|> metaProperty
where
  call : Reader Node :=
    phrase .callExpression do
      let callee ← leaf .importCallee true 6
      let types ←
        if k.dialect.isTyped then option (behindOperandGap (typeArguments k)) else pure []
      return callee.underField .function :: types ++
        (← underField .arguments (behindOperandGap (argumentList k)))
  metaProperty : Reader Node :=
    phrase (.other "meta_property") do
      let word ← keyword "import"
      let point ← nextToken "."
      return word ++ point ++ (← nextKeyword "meta")

def startsOperand (k : Kit) (c : Context) : Reader Bool := do
  if c.ends && (← endsHere k ⟨true, false⟩) then return false
  let word ← peekNextWord
  if word != "" then return !(["in", "instanceof", "as", "satisfies", "of", "implements"].contains word)
  if ["[", "\x7b", "!", "~", "@"].contains (← peekNext) then return true
  look do
    discard gap
    match ← rest with
    | ch :: _ => return isDigit ch || ['\x22', '\x27', '\x60', '#'].contains ch
    | [] => return false

def construction (k : Kit) (c : Context) (target : Reader Node) : Reader Node :=
  metaProperty <|> phrase (.other "new_expression") do
    let word ← keyword "new"
    let callee ← behindOperandGap target
    let types ← if k.dialect.isTyped then option instantiation else pure []
    let list ← option (return (← onwardGap k c) ++ [← argumentList k])
    return word ++ callee ++ types ++ list
where
  metaProperty : Reader Node :=
    phrase (.other "meta_property") do
      let word ← keyword "new"
      let point ← nextToken "."
      return word ++ point ++ (← nextKeyword "target")
  instantiation : Reader (List Node) := do
    let types ← behindOperandGap (typeArguments k)
    require !(← startsOperand k c)
    return types

/-- One step from an operand to a larger one: a member, a subscript, a call, a template or a step by
one. -/
def suffix (k : Kit) (c : Context) (n : Node) : Reader Node := do
  let comments ← onwardGap k c
  let from_ := fun (f : Field) (ns : List Node) ↦ n.underField f :: comments ++ ns
  match ← peek with
  | "." => phrase .memberExpression do
    let point ← token "."
    return from_ .object (point ++ (← underField .property (behindOperandGap memberName)))
  | "?." => do
    require !(Semicolon.opensConditional k.dialect (← rest))
    let chain ← leaf (.other "optional_chain") true 2
    memberBehind comments chain <|> subscriptBehind comments chain <|> callBehind comments chain
  | "[" => phrase (.other "subscript_expression") do
    return from_ .object (← subscript)
  | "(" => phrase .callExpression do
    return from_ .function [(← argumentList k).underField .arguments]
  | "++" => phrase (.other "update_expression") do return from_ .left (← token "++")
  | "--" => phrase (.other "update_expression") do return from_ .left (← token "--")
  | _ => phrase .callExpression do
    return from_ .function [(← template).underField .arguments]
where
  template : Reader Node := templateOf .templateString substitution k.bound
  substitution : Reader Node :=
    phrase .templateSubstitution do
      let open_ ← piece "$\x7b"
      let inner ← enclosedSequence k
      return open_ ++ inner ++ (← nextToken "\x7d")
  subscript : Reader (List Node) := do
    let open_ ← token "["
    let index ← enclosedSequence k
    return open_ ++ index ++ (← nextToken "]")
  memberBehind (comments : List Node) (chain : Node) : Reader Node :=
    phrase .memberExpression do
      return n.underField .object :: comments ++ chain ::
        (← underField .property (behindOperandGap memberName))
  subscriptBehind (comments : List Node) (chain : Node) : Reader Node :=
    phrase (.other "subscript_expression") do
      return n.underField .object :: comments ++ chain :: (← behind subscript)
  callBehind (comments : List Node) (chain : Node) : Reader Node :=
    phrase .callExpression do
      let types ←
        if k.dialect.isTyped then option (behindOperandGap (typeArguments k)) else pure []
      return n.underField .function :: comments ++ chain :: types ++
        (← underField .arguments (behindOperandGap (argumentList k)))

def suffixes (k : Kit) (c : Context) : Node → Reader Node := extend (suffix k c) k.bound

/-- As `suffix`, without calls with arguments: what `new` applies to. -/
def constructionTarget (k : Kit) (c : Context) (base : Reader Node) : Reader Node := do
  extend step k.bound (← base)
where
  step (n : Node) : Reader Node := do
    let next ← peekNext
    require (next != "(" && next != "++" && next != "--")
    suffix k c n

def assignmentOperators : List String :=
  ["=", "+=", "-=", "*=", "/=", "%=", "^=", "&=", "|=", ">>=", ">>>=", "<<=", "**=", "&&=", "||=",
   "??="]

def isAssignable (n : Node) : Bool :=
  match n.kind with
  | .identifier | .memberExpression | .parenthesizedExpression | .nonNullExpression => true
  | .other name => name = "subscript_expression" || name = "undefined"
  | _ => false

def assigned (k : Kit) (c : Context) (n : Node) : Reader Node :=
  (phrase (.other "assignment_expression") do
    require (isAssignable n)
    let comments ← onwardGap k c
    let op ← peek
    require (assignmentOperators.contains op)
    let equals ← token op
    return n :: comments ++ equals ++ (← k.next (.expression c))) <|> return n

def bracketed (k : Kit) (c : Context) (literal : Reader Node) : Reader Node :=
  plain <|> phrase (.other "assignment_expression") do
    let target ← destructuring k
    let equals ← nextToken "="
    return target :: equals ++ (← k.next (.expression c))
where
  plain : Reader Node := do
    let n ← literal
    require ((← peekNext) != "=")
    return n

def parenthesizedOrArrow (k : Kit) (c : Context) : Reader Node :=
  closed <|> arrow k c
where
  closed : Reader Node := do
    let start ← get
    let n ← parenthesized k
    match ← peekNext with
    | "=>" => failure
    | ":" =>
      if k.dialect.isTyped && c.resultType then
        let behind_ ← get
        (do set start; arrow k c) <|> do
          set behind_
          return n
      else return n
    | _ => return n

def keywordLeaf (word : String) : Reader Node := leaf (.other word) true word.length

def privateOperand : Reader Node := do
  let n ← privateName
  require ((← peekNextWord) == "in")
  return n

def operatorWords : List String :=
  ["class", "function", "new", "typeof", "void", "delete", "yield", "import"]

def identifierOperand (k : Kit) : Reader Node := do
  let word ← peekWord
  require !(operatorWords.contains word)
  match word with
  | "undefined" => keywordLeaf word
  | "export" => leaf .identifier true word.length
  | _ => name k

def resourceAssignment (k : Kit) (c : Context) : Reader Node :=
  phrase (.other "assignment_expression") do
    require k.dialect.isTyped
    let word ← keyword "using"
    require !(c.ends && (← endsHere k ⟨true, false⟩))
    let target ← behindOperandGap (destructuring k <|> placePattern k)
    let equals ← nextToken "="
    return word ++ target ++ equals ++ (← k.next (.expression c))

def namespaceOperand (k : Kit) (c : Context) : Reader Node :=
  phrase (.other "internal_module") do
    require k.dialect.isTyped
    let word ← keyword "namespace"
    require !(c.ends && (← endsHere k ⟨true, false⟩))
    let named ← behindOperandGap (string <|> decoratorTarget k)
    return word ++ named ++ (← option (k.next .block))

def wordOperand (k : Kit) (c : Context) : Reader Node := do
  match ← peekWord with
  | "this" => keywordLeaf "this"
  | "super" => keywordLeaf "super"
  | "true" => keywordLeaf "true"
  | "false" => keywordLeaf "false"
  | "null" => keywordLeaf "null"
  | "function" => functionExpression k
  | "class" => classExpression k
  | "new" => k.read (.construction c)
  | "import" => importOperand k
  | "async" => functionExpression k <|> arrow k c <|> bareArrow k c <|> identifierOperand k
  | "using" => resourceAssignment k c <|> bareArrow k c <|> identifierOperand k
  | "namespace" => namespaceOperand k c <|> bareArrow k c <|> identifierOperand k
  | _ => bareArrow k c <|> identifierOperand k

def primary (k : Kit) (c : Context) : Reader Node := do
  match ← rest with
  | '(' :: _ => parenthesizedOrArrow k c
  | '[' :: _ => bracketed k c (array k)
  | '\x7b' :: _ => bracketed k c (object k)
  | '\x22' :: _ | '\x27' :: _ => string
  | '\x60' :: _ => suffix.template k
  | '/' :: _ => regex
  | '<' :: _ => angled
  | '#' :: _ => privateOperand
  | '@' :: _ => classExpression k
  | ch :: _ => if isDigit ch || ch = '.' then number else wordOperand k c
  | [] => failure
where
  angled : Reader Node :=
    (do require k.dialect.isTyped; arrow k c) <|> do
      if k.dialect.hasMarkup then k.read .element
      else phrase (.other "type_assertion") do
        let types ← typeArguments k
        return types :: (← k.next (.operand c))

def unary (k : Kit) (c : Context) (op : Reader (List Node)) : Reader Node :=
  phrase (.other "unary_expression") do
    let operator ← op
    return operator ++ (← k.next (.operand c))

def update (k : Kit) (c : Context) (op : String) : Reader Node :=
  phrase (.other "update_expression") do
    let operator ← token op
    return operator ++ (← k.next (.operand c))

def yielding (k : Kit) (c : Context) : Reader Node :=
  phrase (.other "yield_expression") do
    let word ← keyword "yield"
    delegated word <|> valued word <|> return word
where
  delegated (word : List Node) : Reader (List Node) := do
    let comments ← onwardGap k c
    let star ← token "*"
    return word ++ comments ++ star ++ (← k.next (.expression c))
  valued (word : List Node) : Reader (List Node) := do
    require !(c.ends && (← endsHere k ⟨true, false⟩))
    return word ++ (← k.next (.expression c))

def asserted (k : Kit) (c : Context) (n : Node) : Reader Node := do
  require k.dialect.isTyped
  let m ← phrase .nonNullExpression do
    let comments ← onwardGap k c
    return n :: comments ++ (← token "!")
  assigned k c (← suffixes k c m)

def awaiting (k : Kit) (c : Context) : Reader Node := bareArrow k c <|> full <|> alone
where
  full : Reader Node :=
    phrase .awaitExpression do
      let word ← keyword "await"
      require !(c.ends && (← endsHere k ⟨true, false⟩))
      return word ++ (← behindOperandGap do extend (asserted k c) k.bound (← k.read (.operand c)))
  alone : Reader Node := do
    let n ← leaf .identifier true 5
    assigned k c (← suffixes k c n)

def operand (k : Kit) (c : Context) : Reader Node := do
  match ← peek with
  | "!" => unary k c (token "!")
  | "~" => unary k c (token "~")
  | "+" => unary k c (token "+")
  | "-" => unary k c (token "-")
  | "++" => update k c "++"
  | "--" => update k c "--"
  | _ =>
    match ← peekWord with
    | "typeof" => unary k c (keyword "typeof")
    | "void" => unary k c (keyword "void")
    | "delete" => unary k c (keyword "delete")
    | "await" => awaiting k c
    | "yield" => yielding k c
    | _ => assigned k c (← suffixes k c (← primary k c))

end PackageAudit.Script
