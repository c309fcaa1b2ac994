import PackageAudit.Json.Value
import PackageAudit.Decimal.Format

namespace PackageAudit.Json

inductive Fault where
  | byteOrderMark | value | propertyName | colon | comma | extraData
  | unterminated | control | escape | unicodeEscape
deriving DecidableEq

inductive ReadError where
  | malformed (fault : Fault) (place : Nat)
  | longInteger
  | deep
deriving DecidableEq

def Fault.message : Fault → String
  | byteOrderMark => "Unexpected UTF-8 BOM (decode using utf-8-sig)"
  | value => "Expecting value"
  | propertyName => "Expecting property name enclosed in double quotes"
  | colon => "Expecting ':' delimiter"
  | comma => "Expecting ',' delimiter"
  | extraData => "Extra data"
  | unterminated => "Unterminated string starting at"
  | control => "Invalid control character at"
  | escape => "Invalid \\escape"
  | unicodeEscape => "Invalid \\uXXXX escape"

def Fault.describe (f : Fault) (source : Text) (place : Nat) : Text :=
  let before := source.take place
  let newline := CodePoint.ofNat 10
  let line := before.count newline + 1
  let column := (before.reverse.takeWhile (· != newline)).length + 1
  Text.ofString s!"{f.message}: line {line} column {column} (char {place})"

def digitLimit : Nat := 4300

def depthLimit : Nat := 990

structure Cursor where
  rest : Text
  place : Nat

abbrev Reader := StateT Cursor (Except ReadError)

def fail {α : Type} (f : Fault) (place : Nat) : Reader α := throw (.malformed f place)

def isGap : CodePoint → Bool
  | .char c => c = ' ' || c = '\t' || c = '\n' || c = '\r'
  | .surrogate _ => false

def advance (n : Nat) : Reader Unit := modify fun c ↦ ⟨c.rest.drop n, c.place + n⟩

def skipGap : Reader Unit := do
  advance ((← get).rest.takeWhile isGap).length

def hexValue? : CodePoint → Option Nat
  | .char c =>
    if '0' ≤ c && c ≤ '9' then some (c.toNat - 48)
    else if 'a' ≤ c && c ≤ 'f' then some (c.toNat - 87)
    else if 'A' ≤ c && c ≤ 'F' then some (c.toNat - 55)
    else none
  | .surrogate _ => none

def fourHex? : Text → Option Nat
  | a :: b :: c :: d :: _ => do
    return 4096 * (← hexValue? a) + 256 * (← hexValue? b) + 16 * (← hexValue? c) + (← hexValue? d)
  | _ => none

def simpleEscape? : CodePoint → Option CodePoint
  | .char '\x22' => some (.char '\x22')
  | .char '\\' => some (.char '\\')
  | .char '/' => some (.char '/')
  | .char 'b' => some (.char '\x08')
  | .char 'f' => some (.char '\x0c')
  | .char 'n' => some (.char '\n')
  | .char 'r' => some (.char '\r')
  | .char 't' => some (.char '\t')
  | _ => none

/-- The code point of a pair of surrogates, if the second number is a low one. -/
def joinPair? (high low : Nat) : Option CodePoint :=
  if 0xDC00 ≤ low && low < 0xE000 then
    some (CodePoint.ofNat (0x10000 + 1024 * (high - 0xD800) + (low - 0xDC00)))
  else none

/-- The number that four digits behind `\u` write. At least one more code point must follow them. -/
def unicodeEscape? (behind : Text) : Option Nat :=
  if (behind.drop 4).isEmpty then none else fourHex? behind

/-- What the escape behind a backslash stands for, and how many code points it takes; or a fault and
its distance from the backslash. Two escapes that write a pair of surrogates count as one. -/
def escape : Text → Except (Fault × Nat) (CodePoint × Nat)
  | [] => .error (.unterminated, 0)
  | .char 'u' :: r =>
    match unicodeEscape? r with
    | none => .error (.unicodeEscape, 1)
    | some n =>
      match 0xD800 ≤ n && n < 0xDC00, r.drop 4 with
      | true, .char '\\' :: .char 'u' :: r' =>
        if (r'.drop 4).isEmpty then .ok (CodePoint.ofNat n, 5)
        else match fourHex? r' with
          | none => .error (.unicodeEscape, 7)
          | some m =>
            match joinPair? n m with
            | some c => .ok (c, 11)
            | none => .ok (CodePoint.ofNat n, 5)
      | _, _ => .ok (CodePoint.ofNat n, 5)
  | e :: _ =>
    match simpleEscape? e with
    | none => .error (.escape, 0)
    | some c => .ok (c, 1)

/-- The content of a string up to its closing quote, where the first `inside` code points have been
read as part of an escape, and `start` is the place of its opening quote. -/
def stringFrom (start : Nat) :
    (rest : Text) → (place inside : Nat) → Except ReadError (Text × Cursor)
  | [], _, _ => .error (.malformed .unterminated start)
  | _ :: r, place, inside + 1 => stringFrom start r (place + 1) inside
  | .char '\x22' :: r, place, 0 => .ok ([], ⟨r, place + 1⟩)
  | .char '\\' :: r, place, 0 =>
    match escape r with
    | .error (.unterminated, _) => .error (.malformed .unterminated start)
    | .error (fault, distance) => .error (.malformed fault (place + distance))
    | .ok (c, length) => do
      let (t, rest) ← stringFrom start r (place + 1) length
      return (c :: t, rest)
  | c :: r, place, 0 =>
    if c.toNat < 32 then .error (.malformed .control place)
    else do
      let (t, rest) ← stringFrom start r (place + 1) 0
      return (c :: t, rest)

def string : Reader Text := do
  let c ← get
  let (t, c) ← stringFrom c.place (c.rest.drop 1) (c.place + 1) 0
  set c
  return t

def isNumeral : CodePoint → Bool
  | .char c => ('0' ≤ c && c ≤ '9') || c = '+' || c = '-' || c = '.' || c = 'e' || c = 'E'
  | .surrogate _ => false

structure Numeral where
  negative : Bool
  whole : List Nat
  fraction : List Nat
  exponent : Option Int
  rest : Text

namespace Numeral

def takeMinus : Text → Bool × Text
  | .char '-' :: r => (true, r)
  | r => (false, r)

def wholeOf : Text → List Nat
  | .char '0' :: _ => [0]
  | r => (Decimal.takeDigits .strict r false).1

def fractionOf : Text → List Nat
  | .char '.' :: r => (Decimal.takeDigits .strict r false).1
  | _ => []

def ofText (t : Text) : Numeral :=
  let (negative, body) := takeMinus t
  let whole := wholeOf body
  let behind := body.drop whole.length
  let fraction := fractionOf behind
  let behind := if fraction.isEmpty then behind else behind.drop (fraction.length + 1)
  let (exponent, rest) := Decimal.takeExponent .strict behind
  ⟨negative, whole, fraction, exponent, rest⟩

/-- An integer, or with a fraction or an exponent a float. -/
def value (n : Numeral) : Except ReadError Value :=
  if n.fraction.isEmpty && n.exponent.isNone then
    if digitLimit < n.whole.length then .error .longInteger
    else .ok (.integer (if n.negative then -(Decimal.ofDigits n.whole : Int)
      else Decimal.ofDigits n.whole))
  else .ok (.float (Decimal.valueOf n.negative n.whole n.fraction (n.exponent.getD 0)))

end Numeral

def number : Reader Value := do
  let c ← get
  let run := c.rest.takeWhile isNumeral
  let n := Numeral.ofText run
  if n.whole.isEmpty then fail .value c.place
  else
    advance (run.length - n.rest.length)
    n.value

def word? (w : String) (v : Value) : Reader (Option Value) := do
  let t := Text.ofString w
  if t.isPrefixOf (← get).rest then
    advance t.length
    return some v
  else return none

def scalar : Reader Value := do
  if let some v ← word? "null" .null then return v
  if let some v ← word? "true" (.bool true) then return v
  if let some v ← word? "false" (.bool false) then return v
  if let some v ← word? "NaN" (.float Decimal.notANumber) then return v
  if let some v ← word? "Infinity" (.float Decimal.infinity) then return v
  if let some v ← word? "-Infinity" (.float (-Decimal.infinity)) then return v
  number

def items (value : Reader Value) : (bound : Nat) → Reader (List Value)
  | 0 => do fail .value (← get).place
  | bound + 1 => do
    let v ← value
    skipGap
    match (← get).rest with
    | .char ']' :: _ => do
      advance 1
      return [v]
    | .char ',' :: _ => do
      advance 1
      skipGap
      return v :: (← items value bound)
    | _ => fail .comma (← get).place

def key : Reader Text := do
  match (← get).rest with
  | .char '\x22' :: _ => do
    let key ← string
    skipGap
    match (← get).rest with
    | .char ':' :: _ => do
      advance 1
      skipGap
      return key
    | _ => fail .colon (← get).place
  | _ => fail .propertyName (← get).place

def members (value : Reader Value) : (bound : Nat) → Reader (List (Text × Value))
  | 0 => do fail .value (← get).place
  | bound + 1 => do
    let key ← key
    let v ← value
    skipGap
    match (← get).rest with
    | .char '\x7d' :: _ => do
      advance 1
      return [(key, v)]
    | .char ',' :: _ => do
      advance 1
      skipGap
      return (key, v) :: (← members value bound)
    | _ => fail .comma (← get).place

def leafValue : Reader Value := do
  match (← get).rest with
  | .char '\x22' :: _ => return .string (← string)
  | _ => scalar

/-- The value that stands here, inside fewer than `depth` brackets. -/
def value (bound : Nat) : (depth : Nat) → Reader Value
  | 0 => do
    match (← get).rest with
    | .char '[' :: _ | .char '\x7b' :: _ => throw .deep
    | _ => leafValue
  | depth + 1 => do
    match (← get).rest with
    | .char '[' :: _ => do
      advance 1
      skipGap
      match (← get).rest with
      | .char ']' :: _ => do
        advance 1
        return .array []
      | _ => return .array (← items (value bound depth) bound)
    | .char '\x7b' :: _ => do
      advance 1
      skipGap
      match (← get).rest with
      | .char '\x7d' :: _ => do
        advance 1
        return .object []
      | _ => return .object (Keyed.ofList (← members (value bound depth) bound))
    | _ => leafValue

def parse (t : Text) : Except ReadError Value := do
  if t.head? = some (CodePoint.ofNat 0xfeff) then throw (.malformed .byteOrderMark 0)
  let (v, c) ← whole.run ⟨t, 0⟩
  if c.rest.isEmpty then return v else throw (.malformed .extraData c.place)
where
  whole : Reader Value := do
    skipGap
    let v ← value (t.length + 1) depthLimit
    skipGap
    return v

end PackageAudit.Json
