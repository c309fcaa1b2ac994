import PackageAudit.Script.Dialect

namespace PackageAudit.Script.Semicolon

/-- What stands before the place where a statement may end. -/
structure Setting where
  /-- An operator may follow here. -/
  afterOperand : Bool
  beforeBody : Bool

def isLineBreak (c : Char) : Bool := c = '\n' || c = '\u2028' || c = '\u2029'

inductive Place where
  | line
  /-- Behind a block comment on that line. -/
  | behindComment
  | blank
  | lineComment
  | blockComment (sawLineBreak : Bool)

def passGap : List Char → Place → Option (List Char)
  | [], _ => some []
  | c :: r, .lineComment =>
    if c = '\x00' then some (c :: r)
    else passGap r (if isLineBreak c then .blank else .lineComment)
  | '*' :: '/' :: r, .blockComment _ => passGap r .blank
  | c :: r, .blockComment b => if c = '\x00' then some (c :: r) else passGap r (.blockComment b)
  | '/' :: '/' :: r, _ => passGap r .lineComment
  | '/' :: '*' :: r, _ => passGap r (.blockComment false)
  | '/' :: _, _ => none
  | c :: r, p => if isBreakableSpace c then passGap r p else some (c :: r)

def goesOnAsInstanceof (cs : List Char) : Bool :=
  let word := "stanceof".toList
  word.isPrefixOf cs && !((cs.drop word.length).head?.map (fun c ↦ isLetter c || '\x80' ≤ c)).getD false

/-- Whether a word that starts a line, given without its first letter `i`, starts a statement. The
operators `in` and `instanceof` do not. -/
def startsAfterI : List Char → Bool
  | 'n' :: c :: r => (isLetter c || '\x80' ≤ c) && !goesOnAsInstanceof (c :: r)
  | 'n' :: [] => false
  | _ => true

def startsStatement : List Char → Bool
  | '.' :: r => (r.head?.map isDigit).getD false
  | '+' :: r => r.head? = some '+'
  | '-' :: r => r.head? = some '-'
  | '!' :: r => r.head? != some '='
  | 'i' :: r => startsAfterI r
  | c :: _ =>
    !(['\x60', ',', ':', ';', '*', '%', '>', '<', '=', '[', '(', '?', '^', '|', '&', '/'].contains c)
  | [] => true

def startsTypedStatement (s : Setting) : List Char → Bool
  | '\x7b' :: _ => !s.beforeBody
  | '(' :: _ => !s.afterOperand
  | '[' :: _ => !s.afterOperand
  | '.' :: _ => false
  | cs => startsStatement cs

/-- Whether a plain statement ends here: at the end, before a closing brace, or before a line that
starts a new one. Comments on the way count as blanks where no operator may follow; else the
statement ends only behind them, unless a line break or a brace follows a block comment. -/
def endsPlain (s : Setting) : List Char → Place → Bool
  | [], .line => true
  | [], .behindComment => false
  | [], _ => !s.afterOperand
  | c :: r, .lineComment =>
    if c = '\x00' then !s.afterOperand
    else endsPlain s r (if isLineBreak c then .blank else .lineComment)
  | '*' :: '/' :: r, .blockComment sawBreak =>
    if r.head? = some '/' then endsPlain s r .blank
    else if sawBreak && !s.afterOperand && r.head? != some ',' && r.head? != some '=' then true
    else endsPlain s r .behindComment
  | c :: r, .blockComment sawBreak =>
    if c = '\x00' then !s.afterOperand
    else endsPlain s r (.blockComment (sawBreak || isLineBreak c))
  | '/' :: '/' :: r, _ => endsPlain s r .lineComment
  | '/' :: '*' :: r, _ => endsPlain s r (.blockComment false)
  | '/' :: _, _ => false
  | c :: r, .blank =>
    if isBreakableSpace c then endsPlain s r .blank
    else c = '\x7d' || (!s.afterOperand && c != ',' && c != '=')
  | c :: r, p =>
    if c = '\x7d' then true
    else if c = '\x00' then p matches .line
    else if isLineBreak c then ((passGap r .blank).map startsStatement).getD false
    else isBreakableSpace c && endsPlain s r .line

/-- Whether a typed statement ends here: only `\n` breaks a line, no comment may stand before that
break, and a closing brace before a colon ends nothing unless an operand stands before it. -/
def endsTyped (s : Setting) : List Char → Bool
  | [] => true
  | '\x00' :: _ => true
  | '\x7d' :: r => s.afterOperand || (r.dropWhile isBreakableSpace).head? != some ':'
  | '\n' :: r => ((passGap r .blank).map (startsTypedStatement s)).getD false
  | c :: r => isBreakableSpace c && endsTyped s r

def ends (d : Dialect) (s : Setting) (cs : List Char) : Bool :=
  if d.isTyped then endsTyped s cs else endsPlain s cs .line

def opensConditional (d : Dialect) : List Char → Bool
  | '?' :: '?' :: _ => false
  | '?' :: '.' :: r => !d.isTyped && (r.head?.map isDigit).getD false
  | '?' :: r =>
    !d.isTyped ||
      match r.dropWhile isBreakableSpace with
      | ':' :: _ | ')' :: _ | ',' :: _ => false
      | '.' :: r => (r.head?.map isDigit).getD false
      | _ => true
  | _ => false

end PackageAudit.Script.Semicolon
