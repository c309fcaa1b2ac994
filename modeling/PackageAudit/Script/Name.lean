import PackageAudit.Script.Literal

namespace PackageAudit.Script

open Syntax Reader

def reservedWords : List String :=
  ["break", "case", "catch", "class", "const", "continue", "debugger", "default", "delete", "do",
   "else", "export", "extends", "false", "finally", "for", "function", "if", "import", "in",
   "instanceof", "new", "null", "return", "super", "switch", "this", "throw", "true", "try",
   "typeof", "var", "void", "while", "with"]

/-- A word that can be bound. The typed dialects reserve none where only a name may stand. -/
def isName (d : Dialect) (word : String) : Bool :=
  word != "" && (d.isTyped || !reservedWords.contains word)

def nameOf (kind : Kind) (k : Kit) : Reader Node := do
  let word ← peekWord
  require (isName k.dialect word)
  leaf kind true word.length

def name : Kit → Reader Node := nameOf .identifier

def propertyWord : Reader Node := do
  let word ← peekWord
  require (word != "")
  leaf (.other "property_identifier") true word.length

def privateName : Reader Node := do
  match ← rest with
  | '#' :: r =>
    match wordLength r with
    | 0 => failure
    | n + 1 => leaf (.other "private_property_identifier") true (n + 2)
  | _ => failure

def memberName : Reader Node := privateName <|> propertyWord

def propertyName (k : Kit) : Reader Node :=
  memberName <|> string <|> number <|> phrase (.other "computed_property_name") do
    let open_ ← token "["
    let key ← k.next (.expression .enclosed)
    return open_ ++ key ++ (← nextToken "]")

def sparse (k : Kit) (item : Reader (List Node)) : Reader (List Node) := do
  let head ← option item
  return head ++ (← many (return (← nextToken ",") ++ (← option item)) k.bound)

def separated (k : Kit) (item : Reader (List Node)) : Reader (List Node) := do
  let head ← item
  return head ++ (← many (return (← nextToken ",") ++ (← item)) k.bound)

def listed (k : Kit) (item : Reader (List Node)) : Reader (List Node) :=
  option (return (← separated k item) ++ (← option (nextToken ",")))

end PackageAudit.Script
