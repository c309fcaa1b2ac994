import PackageAudit.Text.CodePoint

namespace PackageAudit

/-- White space of text, with the four information separators and the next-line control. -/
def CodePoint.isSpace : CodePoint → Bool
  | .surrogate _ => false
  | .char c =>
    c = ' ' || ('\t' ≤ c && c ≤ '\r') || ('\x1c' ≤ c && c ≤ '\x1f') || c = '\u0085' ||
      c = '\u00a0' || c = '\u1680' || ('\u2000' ≤ c && c ≤ '\u200a') || c = '\u2028' ||
      c = '\u2029' || c = '\u202f' || c = '\u205f' || c = '\u3000'

namespace Text

def trimStart (t : Text) : Text := t.dropWhile (·.isSpace)

def trimEnd (t : Text) : Text := (t.reverse.dropWhile (·.isSpace)).reverse

def trim (t : Text) : Text := trimEnd (trimStart t)

def words : Text → List Text
  | [] => []
  | c :: r =>
    if c.isSpace then words r
    else match r with
      | [] => [[c]]
      | d :: _ =>
        if d.isSpace then [c] :: words r
        else match words r with
          | [] => [[c]]
          | w :: ws => (c :: w) :: ws

def oneLine (t : Text) : Text := joinWith " " (words t)

/-- At most `limit` code points of the text on one line, and three dots where some are cut off. -/
def preview (limit : Nat) (t : Text) : Text :=
  let line := oneLine t
  if limit < line.length then line.take limit ++ "..." else line

def isLineEnd : CodePoint → Bool
  | .surrogate _ => false
  | .char c =>
    ('\n' ≤ c && c ≤ '\r') || ('\x1c' ≤ c && c ≤ '\x1e') || c = '\u0085' || c = '\u2028' ||
      c = '\u2029'

/-- The lines of a text without their ends. A carriage return and a line feed end one line
together, and no empty line follows the last end. -/
def lines : Text → List Text
  | [] => []
  | .char '\r' :: .char '\n' :: r => [] :: lines r
  | c :: r =>
    if isLineEnd c then [] :: lines r
    else match r with
      | [] => [[c]]
      | d :: _ =>
        if isLineEnd d then
          match lines r with
          | [] => [[c]]
          | _ :: ls => [c] :: ls
        else match lines r with
          | [] => [[c]]
          | l :: ls => (c :: l) :: ls

end Text

end PackageAudit
