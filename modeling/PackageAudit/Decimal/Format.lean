import PackageAudit.Decimal.Shortest
import PackageAudit.Text.Case

namespace PackageAudit.Decimal

structure Style where
  /-- The exponents of the first digit that are written positionally lie from `least` on and below
  `most`. -/
  least : Int
  most : Int
  pointAlways : Bool

/-- Numbers in reports: positional from `1e-4` on and below `1e16`, with a point. -/
def Style.report : Style := ⟨-4, 16, true⟩

/-- Numbers in explanations: positional from `1e-4` on and below a million. -/
def Style.brief : Style := ⟨-4, 6, false⟩

def writeExponent (e : Int) : List Char :=
  let digits := Nat.toDigits 10 e.natAbs
  'e' :: (if e < 0 then '-' else '+') :: (if digits.length < 2 then '0' :: digits else digits)

def Style.write (s : Style) (d : Digits) : List Char :=
  let digits := Nat.toDigits 10 d.coefficient
  if s.least ≤ d.exponent && d.exponent < s.most then
    if d.exponent < 0 then
      '0' :: '.' :: List.replicate (-d.exponent - 1).toNat '0' ++ digits
    else
      let whole := d.exponent.toNat + 1
      if digits.length ≤ whole then
        digits ++ List.replicate (whole - digits.length) '0' ++
          if s.pointAlways then ['.', '0'] else []
      else digits.take whole ++ '.' :: digits.drop whole
  else
    match digits with
    | [] => []
    | [c] => c :: writeExponent d.exponent
    | c :: cs => c :: '.' :: cs ++ writeExponent d.exponent

def writeWith (s : Style) (digits : Binary → Digits) (x : Float) : List Char :=
  let signed := fun (negative : Bool) cs ↦ if negative then '-' :: cs else cs
  match Shape.ofFloat x with
  | .notANumber => "nan".toList
  | .infinite negative => signed negative "inf".toList
  | .zero negative => signed negative (if s.pointAlways then "0.0".toList else ['0'])
  | .finite negative b => signed negative (s.write (digits b).trimmed)

def write (x : Float) : Text := Text.ofChars (writeWith .report Binary.shortest x)

def writeBrief (x : Float) : Text := Text.ofChars (writeWith .brief (Binary.rounded · 6) x)

/-- The number `coefficient · 10 ^ exponent`, rounded once. -/
def ofDecimal (coefficient : Nat) (exponent : Int) : Float :=
  let first := (Ratio.digitCount coefficient : Int) + exponent
  if coefficient = 0 || first < -400 then 0
  else if 400 < first then 1 / 0
  else if 0 ≤ exponent then OfScientific.ofScientific coefficient false exponent.toNat
  else OfScientific.ofScientific coefficient true (-exponent).toNat

def ofDigits (ds : List Nat) : Nat := ds.foldl (fun n d ↦ 10 * n + d) 0

/-- How freely digits may be written: strictly in ASCII, or with the digits of every script and
single low lines between them. -/
inductive Spelling where
  | strict | free
deriving DecidableEq

def Spelling.digit? (s : Spelling) (c : CodePoint) : Option Nat :=
  if s = .free || c.isAscii then c.digit? else none

def takeDigits (s : Spelling) : Text → (inside : Bool) → List Nat × Text
  | [], _ => ([], [])
  | c :: r, inside =>
    match s.digit? c with
    | some d =>
      let (ds, rest) := takeDigits s r true
      (d :: ds, rest)
    | none =>
      if s = .free && inside && c = CodePoint.char '_' && (r.head?.bind s.digit?).isSome then
        takeDigits s r false
      else ([], c :: r)

def takeSign : Text → Bool × Text
  | .char '-' :: r => (true, r)
  | .char '+' :: r => (false, r)
  | t => (false, t)

def takeExponent (s : Spelling) (t : Text) : Option Int × Text :=
  match t with
  | c :: r =>
    if c = CodePoint.char 'e' || c = CodePoint.char 'E' then
      let (negative, r') := takeSign r
      match takeDigits s r' false with
      | ([], _) => (none, t)
      | (ds, rest) => (some (if negative then -(ofDigits ds : Int) else ofDigits ds), rest)
    else (none, t)
  | [] => (none, [])

def valueOf (negative : Bool) (whole fraction : List Nat) (exponent : Int) : Float :=
  let x := ofDecimal (ofDigits (whole ++ fraction)) (exponent - fraction.length)
  if negative then -x else x

def infinity : Float := 1 / 0

def notANumber : Float := 0 / 0

/-- The number that a text without white space around it names: digits with a point and an exponent,
or the words for infinity and for what is no number, in any case. -/
def readPlain? (t : Text) : Option Float := do
  let (negative, body) := takeSign t
  let word := Text.lower body
  if word = "inf" || word = "infinity" then
    return if negative then -infinity else infinity
  if word = "nan" then return notANumber
  let (whole, rest) := takeDigits .free body false
  let (fraction, rest) := match rest with
    | .char '.' :: r => takeDigits .free r false
    | _ => ([], rest)
  guard (!(whole ++ fraction).isEmpty)
  let (exponent, rest) := takeExponent .free rest
  guard rest.isEmpty
  return valueOf negative whole fraction (exponent.getD 0)

end PackageAudit.Decimal
