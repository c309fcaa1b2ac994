namespace PackageAudit.Script

/-- `markupTyped` is the typed dialect that has markup elements instead of angle-bracket casts. -/
inductive Dialect where
  | plain | typed | markupTyped
deriving DecidableEq, Inhabited

namespace Dialect

def isTyped : Dialect → Bool
  | plain => false
  | typed | markupTyped => true

def hasMarkup : Dialect → Bool
  | typed => false
  | plain | markupTyped => true

end Dialect

def isWideSpace (c : Char) : Bool :=
  c = '\u00a0' || c = '\u1680' || ('\u2000' ≤ c && c ≤ '\u200a') || c = '\u202f' ||
    c = '\u205f' || c = '\u3000'

def isBlank (c : Char) : Bool :=
  c = ' ' || ('\t' ≤ c && c ≤ '\r') || c = '\u0085' || isWideSpace c || c = '\ufeff' ||
    c = '\u2028' || c = '\u2029' || c = '\u2060' || c = '\u200b'

/-- The blanks that the search for a statement's end passes over: the no-break spaces and the
invisible separators are not among them. -/
def isBreakableSpace (c : Char) : Bool :=
  c = ' ' || ('\t' ≤ c && c ≤ '\r') || c = '\u2028' || c = '\u2029' ||
    (isWideSpace c && c != '\u00a0' && c != '\u2007' && c != '\u202f')

def isDigit (c : Char) : Bool := '0' ≤ c && c ≤ '9'

def isHexDigit (c : Char) : Bool :=
  isDigit c || ('a' ≤ c && c ≤ 'f') || ('A' ≤ c && c ≤ 'F')

def isLetter (c : Char) : Bool := ('a' ≤ c && c ≤ 'z') || ('A' ≤ c && c ≤ 'Z')

def isPunctuation : Char → Bool
  | ':' | ';' | '\x60' | '\x22' | '\x27' | '@' | '#' | '.' | ',' | '|' | '^' | '&' | '<' | '='
  | '>' | '+' | '-' | '*' | '/' | '\\' | '%' | '?' | '!' | '~' | '(' | ')' | '[' | ']'
  | '\x7b' | '\x7d' => true
  | _ => false

def isWordChar (c : Char) : Bool := !(c ≤ '\x1f' || isBlank c || isPunctuation c)

def wordEscapeLength : List Char → Nat
  | '\\' :: 'u' :: '\x7b' :: r =>
    match r.takeWhile isHexDigit, r.dropWhile isHexDigit with
    | digits@(_ :: _), '\x7d' :: _ => digits.length + 4
    | _, _ => 0
  | '\\' :: 'u' :: a :: b :: c :: d :: _ =>
    if isHexDigit a && isHexDigit b && isHexDigit c && isHexDigit d then 6 else 0
  | _ => 0

/-- The length of the longest run of word characters and escapes, where the first `inside`
characters are known to belong to an escape. -/
def wordRunLength : List Char → (inside : Nat) → Nat
  | [], _ => 0
  | _ :: r, inside + 1 => wordRunLength r inside + 1
  | c :: r, 0 =>
    if isWordChar c then wordRunLength r 0 + 1
    else match wordEscapeLength (c :: r) with
      | 0 => 0
      | n + 1 => wordRunLength r n + 1

def wordLength (cs : List Char) : Nat :=
  match cs with
  | [] => 0
  | c :: _ => if isDigit c then 0 else wordRunLength cs 0

end PackageAudit.Script
