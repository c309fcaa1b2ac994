import PackageAudit.Text.Case

namespace PackageAudit.Text

def hexDigit (n : Nat) : CodePoint :=
  CodePoint.ofNat (if n % 16 < 10 then 0x30 + n % 16 else 0x57 + n % 16)

def hexadecimal (width n : Nat) : Text :=
  match width with
  | 0 => []
  | width + 1 => hexadecimal width (n / 16) ++ [hexDigit n]

def quotedCodePoint (quote c : CodePoint) : Text :=
  let n := c.toNat
  if c = quote || n = 0x5c then [CodePoint.ofNat 0x5c, c]
  else if n = 9 then "\\t"
  else if n = 10 then "\\n"
  else if n = 13 then "\\r"
  else if c.isPrintable then [c]
  else if n < 0x100 then "\\x" ++ hexadecimal 2 n
  else if n < 0x10000 then "\\u" ++ hexadecimal 4 n
  else "\\U" ++ hexadecimal 8 n

/-- A text as messages show it: between apostrophes, or between double quotes if it holds
apostrophes and no double quote. -/
def quoted (t : Text) : Text :=
  let apostrophe := CodePoint.ofNat 0x27
  let double := CodePoint.ofNat 0x22
  let quote := if t.contains apostrophe && !t.contains double then double else apostrophe
  quote :: t.flatMap (quotedCodePoint quote) ++ [quote]

end PackageAudit.Text
