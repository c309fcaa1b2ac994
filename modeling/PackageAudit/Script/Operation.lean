import PackageAudit.Script.Operand

namespace PackageAudit.Script

open Syntax Reader

structure Operator where
  text : String
  level : Nat
  toRight : Bool

def comparisonLevel : Nat := 8

def Operator.ofText? : String → Option Operator
  | "??" => some ⟨"??", 1, false⟩
  | "||" => some ⟨"||", 2, false⟩
  | "&&" => some ⟨"&&", 3, false⟩
  | "|" => some ⟨"|", 4, false⟩
  | "^" => some ⟨"^", 5, false⟩
  | "&" => some ⟨"&", 6, false⟩
  | "==" => some ⟨"==", 7, false⟩
  | "!=" => some ⟨"!=", 7, false⟩
  | "===" => some ⟨"===", 7, false⟩
  | "!==" => some ⟨"!==", 7, false⟩
  | "<" => some ⟨"<", comparisonLevel, false⟩
  | "<=" => some ⟨"<=", comparisonLevel, false⟩
  | ">" => some ⟨">", comparisonLevel, false⟩
  | ">=" => some ⟨">=", comparisonLevel, false⟩
  | "in" => some ⟨"in", comparisonLevel, false⟩
  | "instanceof" => some ⟨"instanceof", comparisonLevel, false⟩
  | "<<" => some ⟨"<<", 9, false⟩
  | ">>" => some ⟨">>", 9, false⟩
  | ">>>" => some ⟨">>>", 9, false⟩
  | "+" => some ⟨"+", 10, false⟩
  | "-" => some ⟨"-", 10, false⟩
  | "*" => some ⟨"*", 11, false⟩
  | "/" => some ⟨"/", 11, false⟩
  | "%" => some ⟨"%", 11, false⟩
  | "**" => some ⟨"**", 12, true⟩
  | _ => none

def operatorText : Reader String := do
  let text ← peek
  if text = "" then peekWord else return text

def binary (k : Kit) (c : Context) (level : Nat) (n : Node) : Reader Node :=
  phrase .binaryExpression do
    let comments ← onwardGap k c
    let some op := Operator.ofText? (← operatorText) | failure
    require (level ≤ op.level)
    let sign ← underField .operator (return [← leaf (.token op.text) false op.text.length])
    let right ← k.next (.operation c (if op.toRight then op.level else op.level + 1))
    return n.underField .left :: comments ++ sign ++ right

def instantiated (k : Kit) (c : Context) (n : Node) : Reader Node := do
  require k.dialect.isTyped
  let comments ← onwardGap k c
  let types ← typeArguments k
  (do
    let call ← phrase .callExpression do
      return n.underField .function :: comments ++ types ::
        (← underField .arguments (behindOperandGap (argumentList k)))
    assigned k c (← suffixes k c call)) <|> do
      require !(← startsOperand k c)
      suffixes k c (← join (.other "instantiation_expression") (n :: comments ++ [types]))

def cast (k : Kit) (c : Context) (n : Node) : Reader Node := do
  require k.dialect.isTyped
  let comments ← onwardGap k c
  let word ← keyword "as" <|> keyword "satisfies"
  let type ← k.next (.type c.ends)
  join (.other "as_expression") (n :: comments ++ word ++ type)

/-- Operands and operators no looser than the level. Casts and assertions that an operand is not
null are looser than all operators. -/
def operation (k : Kit) (c : Context) (level : Nat) : Reader Node := do
  extend step k.bound (← k.read (.operand c))
where
  step (n : Node) : Reader Node :=
    (do require (level ≤ comparisonLevel); instantiated k c n) <|> binary k c level n <|> do
      require (level = 0)
      cast k c n <|> asserted k c n

def expression (k : Kit) (c : Context) : Reader Node := do
  let condition ← k.read (.operation c 0)
  conditional condition <|> return condition
where
  conditional (condition : Node) : Reader Node :=
    phrase .ternaryExpression do
      let comments ← onwardGap k c
      require (Semicolon.opensConditional k.dialect (← rest))
      let mark ← piece "?"
      let parts ←
        if k.dialect.isTyped then branches ⟨false, false⟩ <|> branches .enclosed
        else branches .enclosed
      return condition :: comments ++ mark ++ parts
  branches (inner : Context) : Reader (List Node) := do
    let yes ← k.next (.expression inner)
    let colon ← nextToken ":"
    return yes ++ colon ++ (← k.next (.expression c))

end PackageAudit.Script
