import PackageAudit.Package.Identifier
import PackageAudit.Text.Blank
import PackageAudit.Text.Phrase

namespace PackageAudit.Scan

open Text (Part)

def isQuote (c : CodePoint) : Bool :=
  c = .char '\x27' || c = .char '\x22' || c = .char '\x60'

def gap (least : Nat) : Part := .long (·.isSpace) least false

def quotedSpecifier : List Part :=
  [.one isQuote, .long (fun c ↦ !isQuote c) 1 true, .one isQuote]

def importPhrases : List (List Part) :=
  [[.exactly "import", gap 1, .short (· ≠ CodePoint.char '\n'), gap 1, .exactly "from", gap 1] ++
     quotedSpecifier,
   [.exactly "import", gap 1] ++ quotedSpecifier,
   [.exactly "require", gap 0, .exactly "(", gap 0] ++ quotedSpecifier ++ [gap 0, .exactly ")"]]

/-- The imports of one kind in a text. The captured part is the specifier. -/
def imports (phrase : List Part) (content : Text) : List Text.Found :=
  Text.findAll phrase (fun _ ↦ true) content

/-- The names on which methods of a package are called: those that customarily stand for it, and its
own. -/
def receivers (package : Text) : List Text :=
  let names := (Package.customary.filter fun c ↦ Text.ofString c.2 = package).map fun c ↦
    Text.ofString c.1
  if names.contains package then names else names ++ [package]

def startsReceiver (before : Option CodePoint) : Bool :=
  before.all fun c ↦ !c.isWord && c ≠ .char '$'

def methodPhrase (receiver : Text) : List Part :=
  [.exactly receiver, .exactly ".", .long (·.isWord) 1 true]

def namesPhrase (specifier : Text) : List Part :=
  [.exactly "\x7b", gap 0,
   .long (fun c ↦ c.isWord || c = .char ',' || c.isSpace) 1 true, gap 0,
   .exactly "\x7d", gap 0, .exactly "from", gap 0, .one isQuote, .exactly specifier, .one isQuote]

def addNew (ts : List Text) (t : Text) : List Text := if ts.contains t then ts else ts ++ [t]

/-- The names of methods of a package in a text, in the order of first appearance for one phrase
after the other. -/
def methods (content package specifier : Text) : List Text :=
  let called := (receivers package).flatMap fun r ↦
    Text.findAll (methodPhrase r) startsReceiver content
  let taken := Text.findAll (namesPhrase specifier) (fun _ ↦ true) content
  let names := (called ++ taken).flatMap fun f ↦
    (Text.splitOn (.char ',') f.captured).map Text.trim
  (names.filter (!·.isEmpty)).foldl addNew []

end PackageAudit.Scan
