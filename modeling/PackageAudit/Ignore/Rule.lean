import PackageAudit.Breakdown
import PackageAudit.Glob.Pattern
import PackageAudit.Text.Blank
import PackageAudit.Text.Phrase

namespace PackageAudit.Ignore

open Glob (CharSet)

inductive Piece where
  /-- Any directories above, or none. -/
  | above
  | between
  | slash
  | exactly (c : CodePoint)
  | set (s : CharSet)
  | one
  /-- Code points other than slashes, at least `least`. -/
  | run (least : Nat)
  /-- A slash behind a directory, which the answer tells. -/
  | below (told : Bool)
  /-- The end of the path, or a slash behind a directory. -/
  | stop
deriving DecidableEq

inductive Shape where
  | everything
  /-- All paths that lie in some directory, which the answer tells. -/
  | allBelow (told : Bool)
  | pieces (ps : List Piece)
deriving DecidableEq

structure Rule where
  negated : Bool
  shape : Shape
deriving DecidableEq

def isSlash (c : CodePoint) : Bool := c = .char '/'

def isSegmental (c : CodePoint) : Bool := !isSlash c

def isInLine (c : CodePoint) : Bool := c ≠ .char '\n'

def isEnd (t : Text) : Bool := t.isEmpty || t = [.char '\n']

/-- Whether the pieces fit a path from here on, and if so whether they end at a directory above it.
Of several ways to fit, the one with the longest runs counts. -/
def fit : List Piece → Text → Option Bool
  | [], _ => some false
  | .above :: ps, t =>
    let next := fun (t : Text) ↦ match t with
      | c :: r => if isSlash c then fit ps r else none
      | [] => none
    match Text.longRun isInLine (fun _ b ↦ b) next 1 t with
    | some b => some b
    | none => fit ps t
  | .between :: ps, t =>
    let through := match t with
      | c :: r => if isSlash c then Text.longRun isInLine (fun _ b ↦ b) (fit ps) 1 r else none
      | [] => none
    match through with
    | some b => some b
    | none => fit ps t
  | .run least :: ps, t => Text.longRun isSegmental (fun _ b ↦ b) (fit ps) least t
  | .stop :: _, t =>
    match t with
    | c :: _ => if isSlash c then some true else if isEnd t then some false else none
    | [] => some false
  | _ :: _, [] => none
  | .slash :: ps, c :: r => if isSlash c then fit ps r else none
  | .exactly a :: ps, c :: r => if a = c then fit ps r else none
  | .set s :: ps, c :: r => if s.contains c then fit ps r else none
  | .one :: ps, c :: r => if isSegmental c then fit ps r else none
  | .below told :: _, c :: _ => if isSlash c then some told else none

def Rule.fit? (rule : Rule) (path : Text) : Option Bool :=
  match rule.shape with
  | .everything => if path.any isInLine then some false else none
  | .allBelow told => if path.any isSlash then some told else none
  | .pieces ps => fit ps path

def members : Text → List CodePoint × List (CodePoint × CodePoint)
  | [] => ([], [])
  | [a] => ([a], [])
  | [a, b] => ([a, b], [])
  | a :: b :: c :: r =>
    if b = .char '-' then
      let (ms, rs) := members r
      (ms, (a, c) :: rs)
    else
      let (ms, rs) := members (b :: c :: r)
      (a :: ms, rs)

/-- The set that brackets name. A `!` or a `^` in front negates it. -/
def setOf (content : Text) : CharSet :=
  let (negated, inner) := match content with
    | .char '!' :: r | .char '^' :: r => (true, r)
    | r => (false, r)
  let (ms, rs) := members inner
  ⟨negated, ms, rs⟩

def isFaulty : Piece → Bool
  | .set s => s.ranges.any fun (a, b) ↦ b.toNat < a.toNat
  | _ => false

/-- The content of brackets, up to a closing one that does not come first. -/
def bracketContent? (t : Text) : Option Text :=
  let first := match t with
    | .char '!' :: .char ']' :: _ | .char '^' :: .char ']' :: _ => 2
    | .char '!' :: _ | .char '^' :: _ | .char ']' :: _ => 1
    | _ => 0
  let inside := (t.drop first).takeWhile (· ≠ .char ']')
  if (t.drop first).length ≤ inside.length then none else some (t.take first ++ inside)

inductive Refusal where
  /-- Brackets stay open: such a line names nothing. -/
  | openBrackets
  | openEscape
deriving DecidableEq

/-- The pieces of one segment, where the first `inside` code points have been read. A backslash
takes the code point behind it literally. -/
def segmentFrom : (inside : Nat) → Text → Except Refusal (List Piece)
  | _, [] => .ok []
  | inside + 1, _ :: r => segmentFrom inside r
  | 0, c :: r =>
    if c = .char '\\' then
      match r with
      | [] => .error .openEscape
      | d :: _ => do return .exactly d :: (← segmentFrom 1 r)
    else if c = .char '*' then do return .run 0 :: (← segmentFrom 0 r)
    else if c = .char '?' then do return .one :: (← segmentFrom 0 r)
    else if c = .char '[' then
      match bracketContent? r with
      | none => .error .openBrackets
      | some content => do return .set (setOf content) :: (← segmentFrom (content.length + 1) r)
    else do return .exactly c :: (← segmentFrom 0 r)

def star : Text := "*"

def twoStars : Text := "**"

/-- The segments of a rule, from the root on. A single segment stands at any depth, and an empty one
at the end for all below. -/
def anchor (segments : List Text) : List Text :=
  let anchored := match segments with
    | [] :: r => r
    | [s] => if s = twoStars then [s] else [twoStars, s]
    | [s, []] => if s = twoStars then [s, []] else [twoStars, s, []]
    | r => r
  match anchored.getLast? with
  | some [] => anchored.dropLast ++ [twoStars]
  | _ => anchored

def squeeze : List Text → List Text
  | a :: b :: r => if a = twoStars && b = twoStars then squeeze (b :: r) else a :: squeeze (b :: r)
  | r => r

def piecesFrom (told : Bool) : (needsSlash : Bool) → List Text → Except Refusal (List Piece)
  | _, [] => .ok []
  | needsSlash, [s] =>
    if s = twoStars then .ok [.below told]
    else do
      let here ← if s = star then pure [.run 1] else segmentFrom 0 s
      return (if needsSlash then [.slash] else []) ++ here ++ [.stop]
  | needsSlash, s :: r =>
    if s = twoStars then do return .between :: (← piecesFrom told true r)
    else do
      let here ← if s = star then pure [.run 1] else segmentFrom 0 s
      return (if needsSlash then [.slash] else []) ++ here ++ (← piecesFrom told true r)

def shapeOf (told : Bool) (segments : List Text) : Except Refusal Shape :=
  if segments = [twoStars] then .ok (if told then .allBelow true else .everything)
  else if segments = [twoStars, star] then .ok .everything
  else if segments = [twoStars, star, twoStars] then .ok (.allBelow told)
  else match segments with
    | [] => .ok (.pieces [])
    | s :: r =>
      if s = twoStars then do return .pieces (.above :: (← piecesFrom told false r))
      else do return .pieces (← piecesFrom told false (s :: r))

def Shape.isFaulty : Shape → Bool
  | .pieces ps => ps.any Ignore.isFaulty
  | _ => false

/-- A line without spaces at its end, unless a backslash keeps them. -/
def trimLine (line : Text) : Text :=
  match line.reverse with
  | .char ' ' :: .char '\\' :: _ => line
  | _ => Text.trimEnd line

/-- The rule that a line states. Blank lines, comments and a lone slash state none. -/
def Rule.ofLine? (line : Text) : Except Breakdown (Option Rule) :=
  let line := trimLine line
  let (negated, body) := match line with
    | .char '!' :: r => (true, r)
    | r => (false, r)
  if line.isEmpty || line.head? = some (.char '#') || line = [.char '/'] then .ok none
  else if body.isEmpty then .error .malformedRule
  else
    let segments := Text.splitOn (.char '/') body
    match shapeOf (segments.getLast? = some []) (squeeze (anchor segments)) with
    | .error .openBrackets => .ok none
    | .error .openEscape => .error .malformedRule
    | .ok shape => if shape.isFaulty then .error .emptyRange else .ok (some ⟨negated, shape⟩)

/-- The verdict of rules on a path, as far as they have one, and whether it comes from a directory
above. A later rule wins, but one that fits only a directory above yields to one that fits the path
itself. -/
def verdictFrom : (known : Option (Bool × Bool)) → List Rule → Text → Option (Bool × Bool)
  | known, [], _ => known
  | known, rule :: rules, path =>
    let next := match rule.fit? path with
      | none => known
      | some directory =>
        if directory && known.any (!·.2) then known else some (!rule.negated, directory)
    verdictFrom next rules path

def ignores (rules : List Rule) (path : Text) : Bool :=
  (verdictFrom none rules path).any (·.1)

def rulesOf : List Text → Except Breakdown (List Rule)
  | [] => .ok []
  | line :: lines => do
    let rule ← Rule.ofLine? line
    let rules ← rulesOf lines
    return rule.toList ++ rules

end PackageAudit.Ignore
