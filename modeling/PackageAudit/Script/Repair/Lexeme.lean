import PackageAudit.Script.Name

namespace PackageAudit.Script.Repair

/-- A token as it is told apart where no phrase is open. There a string falls into its quotes and
the words between them. -/
structure Lexeme where
  before : Nat
  start : Nat
  stop : Nat
  text : String
  known : Bool

def lexemeLength (hasMarkup : Bool) : List Char → Nat
  | [] => 0
  | cs@(c :: r) =>
    if hasMarkup && (c = '/' && r.head? = some '>' || c = '<' && r.head? = some '/') then 2
    else if isDigit c then max 1 (numberLength cs)
    else if c = '#' && wordLength r != 0 then wordLength r + 1
    else if ['\x22', '\x27', '\x60'].contains c then 1
    else if c = '$' && r.head? = some '\x7b' then 2
    else max (wordLength cs) (Reader.punctuator cs).length

/-- The tokens of a text behind its first `inside` characters. The head of the text has the place
`offset`, and the text before its blanks ends at `before`. Characters of no token that stand
together make up one. -/
def lexemes (hasMarkup : Bool) :
    (text : List Char) → (before offset inside : Nat) → List Lexeme
  | [], _, _, _ => []
  | _ :: r, _, offset, inside + 1 => lexemes hasMarkup r (offset + 1) (offset + 1) inside
  | c :: r, before, offset, 0 =>
    if isBlank c then lexemes hasMarkup r before (offset + 1) 0
    else match commentLength false (c :: r), lexemeLength hasMarkup (c :: r) with
      | some (n + 1), _ => lexemes hasMarkup r (offset + 1) (offset + 1) n
      | _, n + 1 =>
        ⟨before, offset, offset + n + 1, String.ofList (c :: r.take n), true⟩ ::
          lexemes hasMarkup r (offset + 1) (offset + 1) n
      | _, 0 => unknown before offset c (lexemes hasMarkup r (offset + 1) (offset + 1) 0)
where
  unknown (before offset : Nat) (c : Char) : List Lexeme → List Lexeme
    | [] => [⟨before, offset, offset + 1, c.toString, false⟩]
    | l :: ls =>
      if !l.known && l.start = offset + 1 then
        { l with before, start := offset, text := c.toString ++ l.text } :: ls
      else ⟨before, offset, offset + 1, c.toString, false⟩ :: l :: ls

def markedWords : List String :=
  reservedWords ++ ["abstract", "accessor", "as", "asserts", "async", "await", "declare", "enum",
    "from", "get", "global", "implements", "infer", "interface", "is", "keyof", "let", "meta",
    "module", "namespace", "of", "override", "private", "protected", "public", "readonly",
    "require", "satisfies", "set", "static", "symbol", "target", "type", "undefined", "unique",
    "using", "yield"]

/-- A text for all tokens that the same phrases may start or go on with. -/
def Lexeme.sort (l : Lexeme) : String :=
  match l.text.toList.head? with
  | some c =>
    if isDigit c then "0"
    else if wordLength [c] != 0 && !markedWords.contains l.text then "x"
    else l.text
  | none => ""

end PackageAudit.Script.Repair
