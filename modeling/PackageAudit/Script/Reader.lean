import Std.Data.HashMap
import PackageAudit.Syntax.Node
import PackageAudit.Script.Semicolon

namespace PackageAudit.Script

open Syntax

inductive Part.Form where
  /-- What the phrases around it allow. -/
  | closed
  | series
  /-- More of the same literal, and what closes it. -/
  | opening
deriving DecidableEq

/-- A part of the text behind the cursor: where it starts, how many trees it makes, and how many
nodes they have. -/
structure Part where
  start : Nat
  trees : Nat
  nodes : Nat
  form : Part.Form
deriving DecidableEq

def treesOf (parts : List Part) : Nat := parts.foldr (·.trees + ·) 0

def nodesOf (parts : List Part) : Nat := parts.foldr (·.nodes + ·) 0

structure Cursor where
  rest : List Char
  offset : Nat
  parts : List Part

/-- How far any reader came, and the parts behind that place whenever a token was looked for there.
A reader that fails leaves it, so it tells where a faulty text goes wrong. -/
structure Reach where
  offset : Nat
  piles : List (List Part)
  looked : Bool

def Reach.arrive (c : Cursor) (r : Reach) : Reach :=
  if r.offset < c.offset then ⟨c.offset, [c.parts], false⟩ else r

def Reach.look (c : Cursor) (r : Reach) : Reach :=
  if r.offset < c.offset then ⟨c.offset, [c.parts], true⟩
  else if r.offset != c.offset then r
  else if !r.looked then { r with piles := [c.parts], looked := true }
  else if r.piles.contains c.parts then r
  else { r with piles := r.piles ++ [c.parts] }

structure Context where
  /-- A line break may end the statement here. -/
  ends : Bool
  resultType : Bool
deriving DecidableEq, Hashable, Inhabited

namespace Context

def statement : Context := ⟨true, true⟩

def enclosed : Context := ⟨false, true⟩

end Context

/-- The phrases that other phrases contain at any depth. -/
inductive Phrase where
  | statement
  | block
  | expression (c : Context)
  | operation (c : Context) (level : Nat)
  | operand (c : Context)
  | construction (c : Context)
  | pattern
  | type (ends : Bool)
  | element
deriving DecidableEq, Hashable

structure Passage where
  node : Node
  parts : List Part
  rest : List Char
  stop : Nat

/-- What readers keep note of as they try one way after another. -/
structure Notes where
  reach : Reach
  tried : Std.HashMap (Nat × Phrase) (Option Passage)

/-- A reader takes a cursor and gives an answer and the cursor behind it, or fails. Readers of a
phrase start on its first token and read the gap before each later one, so that a comment belongs to
the smallest phrase around it. -/
abbrev Reader := StateT Cursor (OptionT (StateM Notes))

/-- What the reader of one phrase may use: the dialect, a bound on the length of any list, and the
readers of the phrases inside. -/
structure Kit where
  dialect : Dialect
  bound : Nat
  read : Phrase → Reader Node

namespace Reader

def rest : Reader (List Char) := return (← get).rest

def place : Reader Nat := return (← get).offset

def skip (n : Nat) : Reader Unit :=
  modify fun c ↦ { c with rest := c.rest.drop n, offset := c.offset + n }

def seek : Reader Unit := do
  let c ← get
  modifyThe Notes fun n ↦ { n with reach := n.reach.look c }

def require (b : Bool) : Reader Unit := if b then pure () else failure

def look {α : Type} (r : Reader α) : Reader α := do
  let c ← get
  let a ← r
  set c
  return a

def gather (from_ : Nat) (form : Part.Form) : Reader Unit :=
  modify fun c ↦
    match c.parts.span (from_ ≤ ·.start) with
    | (last :: more, before) =>
      let parts := last :: more
      let first := parts.getLast?.getD last
      let gathered := ⟨first.start, treesOf parts, nodesOf parts, form⟩
      { c with parts := gathered :: before }
    | ([], _) => c

def together (r : Reader (List Node)) : Reader (List Node) := do
  let from_ ← place
  let ns ← r
  gather from_ .closed
  return ns

def join (kind : Kind) (children : List Node) : Reader Node := do
  let n := Node.ofChildren kind children
  modify fun c ↦
    let (held, before) := c.parts.span (n.start ≤ ·.start)
    { c with parts := ⟨n.start, 1, nodesOf held + 1, .closed⟩ :: before }
  return n

def note (place : Nat) (p : Phrase) (answer : Option Passage) : Reader Unit :=
  modifyThe Notes fun n ↦ { n with tried := n.tried.insert (place, p) answer }

/-- Reads the phrase with the reader given, or as it was read here before. -/
def trying (p : Phrase) (r : Reader Node) : Reader Node := do
  let c ← get
  match (← getThe Notes).tried[(c.offset, p)]? with
  | some (some a) =>
    set { c with rest := a.rest, offset := a.stop, parts := a.parts ++ c.parts }
    return a.node
  | some none => failure
  | none =>
    (do
      let node ← r
      let d ← get
      let parts := d.parts.take (d.parts.length - c.parts.length)
      note c.offset p (some ⟨node, parts, d.rest, d.offset⟩)
      return node) <|> do
        note c.offset p none
        failure

def many (item : Reader (List Node)) (bound : Nat) : Reader (List Node) := do
  go (← place) bound
where
  go (from_ : Nat) : Nat → Reader (List Node)
    | 0 => return []
    | bound + 1 => (do
        let a ← item
        gather from_ .series
        return a ++ (← go from_ bound)) <|> return []

def extend (step : Node → Reader Node) : (bound : Nat) → Node → Reader Node
  | 0, n => return n
  | bound + 1, n => (do extend step bound (← step n)) <|> return n

def option (r : Reader (List Node)) : Reader (List Node) := r <|> return []

def leafNodes (kind : Kind) (length : Nat) : Nat :=
  if kind != .string then 1 else if length = 2 then 3 else 4

def leaf (kind : Kind) (named : Bool) (n : Nat) : Reader Node := do
  let at_ ← place
  skip n
  modify fun c ↦ { c with parts := ⟨at_, 1, leafNodes kind n, .closed⟩ :: c.parts }
  let c ← get
  modifyThe Notes fun n ↦ { n with reach := n.reach.arrive c }
  return .leaf kind named at_ (at_ + n)

def comment (n : Nat) : Reader Node := do
  let at_ ← place
  skip n
  return .leaf .comment true at_ (at_ + n)

def phrase (kind : Kind) (children : Reader (List Node)) : Reader Node := do
  join kind (← children)

end Reader

/-- Puts the last of the nodes under the field; those before it are comments. -/
def underField (f : Field) (r : Reader (List Node)) : Reader (List Node) := do
  let ns ← r
  match ns.getLast? with
  | some n => return ns.dropLast ++ [n.underField f]
  | none => return []

def lineLength (cs : List Char) : Nat :=
  (cs.takeWhile fun c ↦
    c != '\n' && c != '\r' && c != '\u2028' && c != '\u2029' && c != '\x00').length

def blockLength : List Char → Option Nat
  | [] => none
  | '*' :: '/' :: _ => some 2
  | c :: r => if c = '\x00' then none else (blockLength r).map (· + 1)

def markupCommentLength : List Char → Option Nat
  | '<' :: '!' :: '-' :: '-' :: r => some (4 + length r)
  | '-' :: '-' :: '>' :: r => some (3 + length r)
  | _ => none
where
  length (cs : List Char) : Nat :=
    (cs.takeWhile fun c ↦ c != '\n' && c != '\u2028' && c != '\u2029' && c != '\x00').length

/-- The length of the comment at the head of the text. Markup comments stand only where no operator
may follow. -/
def commentLength (beforeOperand : Bool) : List Char → Option Nat
  | '/' :: '/' :: r => some (2 + lineLength r)
  | '/' :: '*' :: r => (blockLength r).map (· + 2)
  | cs => if beforeOperand then markupCommentLength cs else none

/-- The comments of a gap, the rest behind it and the place of that rest, where the first `inside`
characters belong to a comment. -/
def gapFrom (beforeOperand : Bool) :
    (rest : List Char) → (offset inside : Nat) → (found : List Node) → List Node × List Char × Nat
  | [], offset, _, found => (found.reverse, [], offset)
  | _ :: r, offset, inside + 1, found => gapFrom beforeOperand r (offset + 1) inside found
  | c :: r, offset, 0, found =>
    if isBlank c then gapFrom beforeOperand r (offset + 1) 0 found
    else match commentLength beforeOperand (c :: r) with
      | some (n + 1) =>
        let comment := Node.leaf .comment true offset (offset + n + 1)
        gapFrom beforeOperand r (offset + 1) n (comment :: found)
      | _ => (found.reverse, c :: r, offset)

namespace Reader

def passGap (beforeOperand : Bool) : Reader (List Node) := do
  seek
  modifyGet fun c ↦
    let (comments, rest, offset) := gapFrom beforeOperand c.rest c.offset 0 []
    (comments, { c with rest, offset })

def gap : Reader (List Node) := passGap false

def operandGap : Reader (List Node) := passGap true

def behind (r : Reader (List Node)) : Reader (List Node) := return (← gap) ++ (← r)

def behindOperandGap (r : Reader Node) : Reader (List Node) := return (← operandGap) ++ [← r]

def punctuator : List Char → String
  | '=' :: '=' :: '=' :: _ => "==="
  | '=' :: '=' :: _ => "=="
  | '=' :: '>' :: _ => "=>"
  | '=' :: _ => "="
  | '!' :: '=' :: '=' :: _ => "!=="
  | '!' :: '=' :: _ => "!="
  | '!' :: _ => "!"
  | '+' :: '+' :: _ => "++"
  | '+' :: '=' :: _ => "+="
  | '+' :: _ => "+"
  | '-' :: '-' :: _ => "--"
  | '-' :: '=' :: _ => "-="
  | '-' :: _ => "-"
  | '*' :: '*' :: '=' :: _ => "**="
  | '*' :: '*' :: _ => "**"
  | '*' :: '=' :: _ => "*="
  | '*' :: _ => "*"
  | '/' :: '=' :: _ => "/="
  | '/' :: _ => "/"
  | '%' :: '=' :: _ => "%="
  | '%' :: _ => "%"
  | '&' :: '&' :: '=' :: _ => "&&="
  | '&' :: '&' :: _ => "&&"
  | '&' :: '=' :: _ => "&="
  | '&' :: _ => "&"
  | '|' :: '|' :: '=' :: _ => "||="
  | '|' :: '|' :: _ => "||"
  | '|' :: '=' :: _ => "|="
  | '|' :: _ => "|"
  | '^' :: '=' :: _ => "^="
  | '^' :: _ => "^"
  | '?' :: '?' :: '=' :: _ => "??="
  | '?' :: '?' :: _ => "??"
  | '?' :: '.' :: _ => "?."
  | '?' :: _ => "?"
  | '<' :: '<' :: '=' :: _ => "<<="
  | '<' :: '<' :: _ => "<<"
  | '<' :: '=' :: _ => "<="
  | '<' :: _ => "<"
  | '>' :: '>' :: '>' :: '=' :: _ => ">>>="
  | '>' :: '>' :: '>' :: _ => ">>>"
  | '>' :: '>' :: '=' :: _ => ">>="
  | '>' :: '>' :: _ => ">>"
  | '>' :: '=' :: _ => ">="
  | '>' :: _ => ">"
  | '.' :: '.' :: '.' :: _ => "..."
  | '.' :: _ => "."
  | ',' :: _ => ","
  | ';' :: _ => ";"
  | ':' :: _ => ":"
  | '~' :: _ => "~"
  | '@' :: _ => "@"
  | '(' :: _ => "("
  | ')' :: _ => ")"
  | '[' :: _ => "["
  | ']' :: _ => "]"
  | '\x7b' :: _ => "\x7b"
  | '\x7d' :: _ => "\x7d"
  | _ => ""

def peek : Reader String := return punctuator (← rest)

def peekWord : Reader String := do
  let cs ← rest
  return String.ofList (cs.take (wordLength cs))

def token (text : String) : Reader (List Node) := do
  require ((← peek) == text)
  return [← leaf (.token text) false text.length]

/-- The token of that text, here, though a longer operator may start with it. -/
def piece (text : String) : Reader (List Node) := do
  require (text.toList.isPrefixOf (← rest))
  return [← leaf (.token text) false text.length]

def opening (text : String) (length : Nat) : Reader (List Node) := do
  let from_ ← place
  let open_ ← piece text
  let inside ←
    if length = 0 then pure [] else pure [← leaf (.other "string_fragment") true length]
  gather from_ .opening
  seek
  return open_ ++ inside

def keyword (text : String) : Reader (List Node) := do
  require ((← peekWord) == text)
  return [← leaf (.token text) false text.length]

def nextToken (text : String) : Reader (List Node) := behind (token text)

def nextPiece (text : String) : Reader (List Node) := behind (piece text)

def nextKeyword (text : String) : Reader (List Node) := behind (keyword text)

def peekNext : Reader String := look do
  discard gap
  peek

def peekNextWord : Reader String := look do
  discard gap
  peekWord

end Reader

/-- Whether the statement ends here without a semicolon. -/
def endsHere (k : Kit) (s : Semicolon.Setting) : Reader Bool :=
  return Semicolon.ends k.dialect s (← Reader.rest)

/-- The gap before a token that goes on with the operand just read. It fails where the statement
ends instead. -/
def onwardGap (k : Kit) (c : Context) : Reader (List Node) := do
  if c.ends then onward ((← Reader.rest).length + 1) [] else Reader.gap
where
  onward : Nat → List Node → Reader (List Node)
    | 0, _ => failure
    | n + 1, found => do
      Reader.require !(← endsHere k ⟨true, false⟩)
      Reader.seek
      let blanks := (← Reader.rest).takeWhile isBlank
      Reader.skip blanks.length
      match commentLength false (← Reader.rest) with
      | some length => onward n (found ++ [← Reader.comment length])
      | none => return found

/-- The end of a statement: a semicolon, or nothing where none is needed. -/
def terminator (k : Kit) (s : Semicolon.Setting) : Reader (List Node) := do
  search ((← Reader.rest).length + 1) []
where
  search : Nat → List Node → Reader (List Node)
    | 0, _ => failure
    | n + 1, found => do
      if ← endsHere k s then return found
      Reader.seek
      let blanks := (← Reader.rest).takeWhile isBlank
      Reader.skip blanks.length
      match commentLength false (← Reader.rest) with
      | some length => search n (found ++ [← Reader.comment length])
      | none => return found ++ (← Reader.token ";")

namespace Kit

def next (k : Kit) (p : Phrase) : Reader (List Node) := Reader.behindOperandGap (k.read p)

end Kit

end PackageAudit.Script
