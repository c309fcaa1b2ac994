import PackageAudit.Json.Value
import PackageAudit.Decimal.Format
import PackageAudit.Text.Quoted

namespace PackageAudit.Json

/-- Which code points are escaped beside quotes, backslashes and controls. -/
inductive Charset where
  | ascii | all
deriving DecidableEq

def utf16Escapes (n : Nat) : Text :=
  if n < 0x10000 then "\\u" ++ Text.hexadecimal 4 n
  else
    "\\u" ++ Text.hexadecimal 4 (0xD800 + (n - 0x10000) / 1024) ++
      "\\u" ++ Text.hexadecimal 4 (0xDC00 + (n - 0x10000) % 1024)

def escapeCodePoint (charset : Charset) (c : CodePoint) : Text :=
  let n := c.toNat
  if n = 0x22 then "\\\""
  else if n = 0x5c then "\\\\"
  else if n = 10 then "\\n"
  else if n = 13 then "\\r"
  else if n = 9 then "\\t"
  else if n = 12 then "\\f"
  else if n = 8 then "\\b"
  else if n < 32 || (charset = .ascii && 127 ≤ n) then utf16Escapes n
  else [c]

def writeString (charset : Charset) (t : Text) : Text :=
  "\"" ++ t.flatMap (escapeCodePoint charset) ++ "\""

def writeFloat (x : Float) : Text :=
  if x.isNaN then "NaN"
  else if x == Decimal.infinity then "Infinity"
  else if x == -Decimal.infinity then "-Infinity"
  else Decimal.write x

def writeInteger (n : Int) : Text :=
  if n < 0 then "-" ++ Text.ofNat n.natAbs else Text.ofNat n.natAbs

def newLine (level : Nat) : Text := "\n" ++ List.replicate (2 * level) (CodePoint.char ' ')

mutual

def write (charset : Charset) (level : Nat) : Value → Text
  | .null => "null"
  | .bool true => "true"
  | .bool false => "false"
  | .integer n => writeInteger n
  | .float x => writeFloat x
  | .string t => writeString charset t
  | .array [] => "[]"
  | .array (v :: vs) =>
    "[" ++ newLine (level + 1) ++ write charset (level + 1) v ++
      writeItems charset (level + 1) vs ++ newLine level ++ "]"
  | .object [] => "\x7b\x7d"
  | .object ((key, v) :: ms) =>
    "\x7b" ++ newLine (level + 1) ++ writeString charset key ++ ": " ++
      write charset (level + 1) v ++ writeMembers charset (level + 1) ms ++ newLine level ++ "\x7d"

def writeItems (charset : Charset) (level : Nat) : List Value → Text
  | [] => []
  | v :: vs => "," ++ newLine level ++ write charset level v ++ writeItems charset level vs

def writeMembers (charset : Charset) (level : Nat) : List (Text × Value) → Text
  | [] => []
  | (key, v) :: ms =>
    "," ++ newLine level ++ writeString charset key ++ ": " ++ write charset level v ++
      writeMembers charset level ms

end

mutual

/-- A value inside a message: words with capitals, strings in quotes. -/
def display : Value → Text
  | .null => "None"
  | .bool true => "True"
  | .bool false => "False"
  | .integer n => writeInteger n
  | .float x => Decimal.write x
  | .string t => Text.quoted t
  | .array [] => "[]"
  | .array (v :: vs) => "[" ++ display v ++ displayItems vs ++ "]"
  | .object [] => "\x7b\x7d"
  | .object ((key, v) :: ms) =>
    "\x7b" ++ Text.quoted key ++ ": " ++ display v ++ displayMembers ms ++ "\x7d"

def displayItems : List Value → Text
  | [] => []
  | v :: vs => ", " ++ display v ++ displayItems vs

def displayMembers : List (Text × Value) → Text
  | [] => []
  | (key, v) :: ms => ", " ++ Text.quoted key ++ ": " ++ display v ++ displayMembers ms

end

def displayPlain : Value → Text
  | .string t => t
  | v => display v

end PackageAudit.Json
