import PackageAudit.Script.Ascription

namespace PackageAudit.Script.Element

open Syntax Reader

def referenceLength : List Char → Nat
  | '&' :: '#' :: 'x' :: r | '&' :: '#' :: 'X' :: r => closed (r.takeWhile isHexDigit) r 6 3
  | '&' :: '#' :: r => closed (r.takeWhile isDigit) r 5 2
  | '&' :: r => closed (r.takeWhile isLetter) r 30 1
  | _ => 0
where
  closed (body rest : List Char) (most before : Nat) : Nat :=
    if body = [] || most < body.length || (rest.drop body.length).head? != some ';' then 0
    else before + body.length + 1

/-- The length of text inside an element, and whether it is more than a line break with blanks. -/
def textLength : List Char → (atBreak : Bool) → Nat × Bool
  | [], _ => (0, false)
  | c :: r, atBreak =>
    if ['<', '>', '\x7b', '\x7d', '&', '\x00'].contains c then (0, false)
    else
      let stillBreak := c = '\n' || (atBreak && isBreakableSpace c)
      let (n, seen) := textLength r stillBreak
      (n + 1, seen || !stillBreak)

def tagWordLength (cs : List Char) : Nat :=
  let isPart := fun c ↦ isLetter c || isDigit c || c = '_' || c = '$' || c = '-'
  let dashed := cs.takeWhile isPart
  let plain := wordLength cs
  if dashed.contains '-' && plain < dashed.length && plain != 0 then dashed.length else plain

def tagWord (kind : Kind) : Reader Node := do
  let n := tagWordLength (← rest)
  require (n != 0)
  leaf kind true n

def tagName (k : Kit) : Reader Node := do
  let base ← tagWord .identifier
  (phrase (.other "jsx_namespace_name") do
    let colon ← nextToken ":"
    return base :: colon ++ (← behindOperandGap (tagWord .identifier))) <|>
    extend member k.bound base
where
  member (n : Node) : Reader Node :=
    phrase .memberExpression do
      let point ← nextToken "."
      return n.underField .object :: point ++
        (← underField .property (behindOperandGap propertyWord))

def braces (k : Kit) (sequence : Reader Node) : Reader Node :=
  phrase (.other "jsx_expression") do
    let open_ ← token "\x7b"
    let inner ← option (behindOperandGap (spread k <|> sequence))
    return open_ ++ inner ++ (← nextToken "\x7d")

def valueLength (quote : Char) : List Char → (inside : Nat) → Option Nat
  | [], _ => none
  | _ :: r, inside + 1 => (valueLength quote r inside).map (· + 1)
  | c :: r, 0 =>
    if c = quote then some 1
    else if c = '\x00' then none
    else if c = '&' && (r.head?.map fun a ↦ a = '#' || isLetter a).getD true then
      match referenceLength (c :: r) with
      | 0 => none
      | n + 1 => (valueLength quote r n).map (· + 1)
    else (valueLength quote r 0).map (· + 1)

def quoted : Reader Node := do
  match ← rest with
  | c :: r =>
    require (c = '\x22' || c = '\x27')
    match valueLength c r 0 with
    | some n => leaf .string true (n + 1)
    | none => failure
  | [] => failure

def tagAttribute (k : Kit) (sequence : Reader Node) : Reader Node :=
  braces k sequence <|> phrase (.other "jsx_attribute") do
    let n ← tagWord (.other "property_identifier")
    let space ← option do
      let colon ← nextToken ":"
      return colon ++ (← behindOperandGap (tagWord .identifier))
    let value ← option do
      let equals ← nextToken "="
      return equals ++ (← behindOperandGap (quoted <|> braces k sequence <|> k.read .element))
    return n :: space ++ value

def tag (k : Kit) (sequence : Reader Node) : Reader (List Node) := do
  let open_ ← piece "<"
  let named ← option do
    let n ← underField .name (behindOperandGap (tagName k))
    let types ←
      if k.dialect.isTyped then option (behindOperandGap (typeArguments k)) else pure []
    return n ++ types ++ (← many (behindOperandGap (tagAttribute k sequence)) k.bound)
  return open_ ++ named

def child (k : Kit) (sequence : Reader Node) : Reader (List Node) := do
  let cs ← rest
  let (n, seen) := textLength cs false
  if seen then return [← leaf (.other "jsx_text") true n]
  let comments ← gap
  let cs ← rest
  match referenceLength cs with
  | n + 1 => return comments ++ [← leaf (.other "html_character_reference") true (n + 1)]
  | 0 =>
    require !("</".toList.isPrefixOf cs)
    return comments ++ [← braces k sequence <|> k.read .element]

def element (k : Kit) (sequence : Reader Node) : Reader Node := do
  let opening ← tag k sequence
  (phrase (.other "jsx_self_closing_element") do
    require (1 < opening.length)
    return opening ++ (← nextPiece "/>")) <|> do
    let opened ← join (.other "jsx_opening_element") (opening ++ (← nextPiece ">"))
    let children ← many (child k sequence) k.bound
    let closing ← phrase (.other "jsx_closing_element") do
      let open_ ← nextPiece "</"
      let named ← option (behindOperandGap (tagName k))
      return open_ ++ named ++ (← nextPiece ">")
    join (.other "jsx_element") (opened :: children ++ [closing])

end PackageAudit.Script.Element
