import PackageAudit.Text.CodePoint
import PackageAudit.Text.PropertyTable

namespace PackageAudit

namespace CodePoint

def within (table : List (Nat × Nat)) (n : Nat) : Bool := table.any fun r ↦ r.1 ≤ n && n ≤ r.2

def isAscii (c : CodePoint) : Bool := c.toNat < 128

def isWord (c : CodePoint) : Bool :=
  let n := c.toNat
  if n < 128 then
    (0x30 ≤ n && n ≤ 0x39) || (0x41 ≤ n && n ≤ 0x5a) || (0x61 ≤ n && n ≤ 0x7a) || n = 0x5f
  else within Text.PropertyTable.alphanumeric n

def isPrintable (c : CodePoint) : Bool :=
  let n := c.toNat
  if n < 127 then 32 ≤ n else !within Text.PropertyTable.unprintable n

def isCased (c : CodePoint) : Bool := within Text.PropertyTable.cased c.toNat

def isCaseIgnorable (c : CodePoint) : Bool := within Text.PropertyTable.caseIgnorable c.toNat

def digit? (c : CodePoint) : Option Nat :=
  let n := c.toNat
  if 0x30 ≤ n && n ≤ 0x39 then some (n - 0x30)
  else (Text.PropertyTable.decimalZeros.find? fun z ↦ z ≤ n && n < z + 10).map (n - ·)

def small (c : CodePoint) : Text :=
  let n := c.toNat
  if n < 128 then if 0x41 ≤ n && n ≤ 0x5a then [ofNat (n + 32)] else [c]
  else if n = 0x130 then [ofNat 0x69, ofNat 0x307]
  else match Text.PropertyTable.capitals.find? fun (a, b, step, _) ↦
      a ≤ n && n ≤ b && (n - a) % step = 0 with
    | some (_, _, _, distance) => [ofNat ((n : Int) + distance).toNat]
    | none => [c]

end CodePoint

namespace Text

def startsCased (t : Text) : Bool :=
  match t.dropWhile (·.isCaseIgnorable) with
  | c :: _ => c.isCased
  | [] => false

/-- The text in small letters, behind the reversed text `before`. A capital sigma that ends a word
becomes a final sigma. -/
def lowerFrom (before : Text) : Text → Text
  | [] => []
  | c :: r =>
    let here :=
      if c.toNat = 0x3a3 then
        [CodePoint.ofNat (if startsCased before && !startsCased r then 0x3c2 else 0x3c3)]
      else c.small
    here ++ lowerFrom (c :: before) r

def lower (t : Text) : Text := lowerFrom [] t

end Text

end PackageAudit
