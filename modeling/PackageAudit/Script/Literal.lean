import PackageAudit.Script.Reader

namespace PackageAudit.Script

open Syntax Reader

def digitsLength (isDigit : Char → Bool) : List Char → Nat
  | c :: '_' :: r =>
    if isDigit c then
      if (r.head?.map isDigit).getD false then digitsLength isDigit r + 2 else 1
    else 0
  | c :: r => if isDigit c then digitsLength isDigit r + 1 else 0
  | [] => 0

def exponentLength : List Char → Nat
  | e :: r =>
    if e = 'e' || e = 'E' then
      match r with
      | s :: ds =>
        if s = '+' || s = '-' then
          match digitsLength isDigit ds with
          | 0 => 0
          | n + 1 => n + 3
        else match digitsLength isDigit r with
          | 0 => 0
          | n + 1 => n + 2
      | [] => 0
    else 0
  | [] => 0

def basedLength (isDigit : Char → Bool) (cs : List Char) : Nat :=
  match digitsLength isDigit cs with
  | 0 => 0
  | n + 1 => if (cs.drop (n + 1)).head? = some 'n' then n + 4 else n + 3

/-- Digits before which a point or an exponent may follow: no second zero leads them. -/
def isIntegerPart : List Char → Bool
  | ['0'] => true
  | '0' :: c :: _ => '1' ≤ c && c ≤ '9'
  | c :: _ => '1' ≤ c && c ≤ '9'
  | [] => false

def decimalLength (cs : List Char) : Nat :=
  let whole := digitsLength isDigit cs
  let behind := cs.drop whole
  if whole = 0 then
    match cs with
    | '.' :: r =>
      match digitsLength isDigit r with
      | 0 => 0
      | n + 1 => n + 2 + exponentLength (r.drop (n + 1))
    | _ => 0
  else if isIntegerPart (cs.take whole) then
    match behind with
    | '.' :: r =>
      let fraction := digitsLength isDigit r
      whole + 1 + fraction + exponentLength (r.drop fraction)
    | 'n' :: _ => whole + 1
    | _ => whole + exponentLength behind
  else if behind.head? = some 'n' then whole + 1
  else whole

def numberLength (cs : List Char) : Nat :=
  let based := match cs with
    | '0' :: 'x' :: r | '0' :: 'X' :: r => basedLength isHexDigit r
    | '0' :: 'b' :: r | '0' :: 'B' :: r => basedLength (fun c ↦ c = '0' || c = '1') r
    | '0' :: 'o' :: r | '0' :: 'O' :: r => basedLength (fun c ↦ '0' ≤ c && c ≤ '7') r
    | _ => 0
  if based = 0 then decimalLength cs else based

def number : Reader Node := do
  let n := numberLength (← rest)
  require (n != 0)
  leaf (.other "number") true n

def escapeLength : List Char → Nat
  | '\\' :: 'x' :: a :: b :: _ => if isHexDigit a && isHexDigit b then 4 else 0
  | cs@('\\' :: 'u' :: _) => wordEscapeLength cs
  | '\\' :: '\r' :: c :: _ => if Semicolon.isLineBreak c then 3 else 2
  | '\\' :: c :: r =>
    if c = 'x' || c = '\x00' then 0
    else if '0' ≤ c && c ≤ '7' then
      2 + ((r.take 2).takeWhile fun c ↦ '0' ≤ c && c ≤ '7').length
    else 2
  | _ => 0

/-- The length of a string up to and with its closing quote, where the first `inside` characters
belong to an escape. Blanks may stand between a line break and that quote. -/
def stringLength (quote : Char) : List Char → (inside : Nat) → Option Nat
  | [], _ => none
  | _ :: r, inside + 1 => (stringLength quote r inside).map (· + 1)
  | c :: r, 0 =>
    if c = quote then some 1
    else if c = '\\' then
      match escapeLength (c :: r) with
      | 0 => none
      | n + 1 => (stringLength quote r n).map (· + 1)
    else if c = '\n' || c = '\r' then
      let blanks := (r.takeWhile isBlank).length
      if (r.drop blanks).head? = some quote then some (blanks + 2) else none
    else if c = '\x00' then none
    else (stringLength quote r 0).map (· + 1)

def openStringLength (cs : List Char) : Nat :=
  (cs.takeWhile fun c ↦ c != '\n' && c != '\r' && c != '\x00').length

def unclosed (text : String) (length : Nat) : Reader Node := do
  discard <| opening text length
  failure

def string : Reader Node := do
  match ← rest with
  | c :: r =>
    require (c = '\x22' || c = '\x27')
    match stringLength c r 0 with
    | some n => leaf .string true (n + 1)
    | none => unclosed (String.singleton c) (openStringLength r)
  | [] => failure

def regexLength : List Char → (inClass : Bool) → Option Nat
  | [], _ => none
  | '\\' :: c :: r, inClass =>
    if c = '\n' || c = '\x00' then none else (regexLength r inClass).map (· + 2)
  | c :: r, true =>
    if c = '\n' || c = '\x00' || c = '\\' then none
    else (regexLength r (c != ']')).map (· + 1)
  | c :: r, false =>
    if c = '/' then some 0
    else if c = '\n' || c = '\x00' || c = '\\' then none
    else (regexLength r (c = '[')).map (· + 1)

def regex : Reader Node := do
  match ← rest with
  | '/' :: r =>
    match regexLength r false with
    | some (n + 1) =>
      let flags := (r.drop (n + 2)).takeWhile fun c ↦ 'a' ≤ c && c ≤ 'z'
      leaf (.other "regex") true (n + 3 + flags.length)
    | _ => unclosed "/" (r.takeWhile (· != '\n')).length
  | _ => failure

def fragmentLength : List Char → Nat
  | '\x60' :: _ | '\\' :: _ | '\x00' :: _ | '$' :: '\x7b' :: _ | [] => 0
  | _ :: r => fragmentLength r + 1

def templateOf (kind : Kind) (substitution : Reader Node) (bound : Nat) : Reader Node :=
  phrase kind do
    let open_ ← opening "\x60" 0
    let parts ← many part bound
    return open_ ++ parts ++ (← piece "\x60")
where
  part : Reader (List Node) := do
    let cs ← rest
    match fragmentLength cs with
    | n + 1 =>
      require !(["", "\x00"].contains (String.ofList ((cs.drop (n + 1)).take 1)))
      return [← leaf (.other "string_fragment") true (n + 1)]
    | 0 =>
      match escapeLength cs with
      | n + 1 => return [← leaf (.other "escape_sequence") true (n + 1)]
      | 0 => return [← substitution]

end PackageAudit.Script
