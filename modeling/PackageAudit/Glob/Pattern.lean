import PackageAudit.Text.CodePoint

namespace PackageAudit.Glob

/-- Code points and ranges of code points, or all others. -/
structure CharSet where
  negated : Bool
  members : List CodePoint
  ranges : List (CodePoint × CodePoint)
deriving DecidableEq

def CharSet.contains (s : CharSet) (c : CodePoint) : Bool :=
  let listed := s.members.contains c ||
    s.ranges.any fun (a, b) ↦ a.toNat ≤ c.toNat && c.toNat ≤ b.toNat
  listed != s.negated

/-- A star stands for any text, slashes included. -/
inductive Part where
  | star
  | any
  | exactly (c : CodePoint)
  | set (s : CharSet)
deriving DecidableEq

/-- Cuts the content of brackets at the hyphens that make ranges, where the first `kept` code points
make none. Each piece lends its last code point to the range behind it. -/
def pieces : (kept : Nat) → Text → List Text
  | _, [] => [[]]
  | kept + 1, c :: r =>
    match pieces kept r with
    | p :: ps => (c :: p) :: ps
    | [] => [[c]]
  | 0, c :: r =>
    if c = .char '-' then [] :: pieces 2 r
    else match pieces 0 r with
      | p :: ps => (c :: p) :: ps
      | [] => [[c]]

def closePieces : List Text → List Text
  | [p, []] => [p ++ [.char '-']]
  | p :: ps => p :: closePieces ps
  | [] => []

/-- Joins the pieces around ranges whose ends are in the wrong order, from the right. Such a range
is empty, and its ends are no members. -/
def dropEmptyRanges : List Text → List Text
  | [] => []
  | p :: ps =>
    match dropEmptyRanges ps with
    | [] => [p]
    | q :: qs =>
      match p.getLast?, q with
      | some a, b :: q' => if b.toNat < a.toNat then (p.dropLast ++ q') :: qs else p :: q :: qs
      | _, _ => p :: q :: qs

def rangesOf : List Text → List (CodePoint × CodePoint)
  | p :: q :: qs =>
    match p.getLast?, q with
    | some a, b :: _ => (a, b) :: rangesOf (q :: qs)
    | _, _ => rangesOf (q :: qs)
  | _ => []

def CharSet.ofContent (content : Text) : CharSet :=
  let bang := content.head? = some (.char '!')
  let cut :=
    if content.contains (.char '-') then
      dropEmptyRanges (closePieces (pieces (if bang then 2 else 1) content))
    else [content]
  match cut with
  | (.char '!' :: p) :: ps => ⟨true, (p :: ps).flatten, rangesOf (p :: ps)⟩
  | ps => ⟨false, ps.flatten, rangesOf ps⟩

/-- The content of brackets and the text behind the closing one. A closing bracket that comes first,
perhaps behind `!`, is content. -/
def bracketContent? (t : Text) : Option (Text × Text) :=
  let first := match t with
    | .char '!' :: .char ']' :: _ => 2
    | .char '!' :: _ | .char ']' :: _ => 1
    | _ => 0
  let inside := (t.drop first).takeWhile (· ≠ .char ']')
  match (t.drop first).drop inside.length with
  | _ :: rest => some (t.take first ++ inside, rest)
  | [] => none

/-- The parts of a pattern, where the first `inside` code points belong to brackets. -/
def partsFrom : (inside : Nat) → Text → List Part
  | _, [] => []
  | inside + 1, _ :: r => partsFrom inside r
  | 0, c :: r =>
    if c = .char '*' then .star :: partsFrom 0 r
    else if c = .char '?' then .any :: partsFrom 0 r
    else if c = .char '[' then
      match bracketContent? r with
      | some (content, _) => .set (.ofContent content) :: partsFrom (content.length + 1) r
      | none => .exactly c :: partsFrom 0 r
    else .exactly c :: partsFrom 0 r

def parts (pattern : Text) : List Part := partsFrom 0 pattern

def squeeze : List Part → List Part
  | .star :: .star :: ps => squeeze (.star :: ps)
  | p :: ps => p :: squeeze ps
  | [] => []

def Part.accepts : Part → CodePoint → Bool
  | .star, _ | .any, _ => true
  | .exactly a, c => a = c
  | .set s, c => s.contains c

def afterSome (rest : Text → Bool) : Text → Bool
  | [] => rest []
  | c :: r => rest (c :: r) || afterSome rest r

def matchParts : List Part → Text → Bool
  | [], t => t.isEmpty
  | .star :: ps, t => afterSome (matchParts ps) t
  | _ :: _, [] => false
  | p :: ps, c :: r => p.accepts c && matchParts ps r

def matches_ (pattern text : Text) : Bool := matchParts (squeeze (parts pattern)) text

/-- As `matches_`, where a pattern that starts with `**` and a slash also stands for the pattern
without them. -/
def accepts (pattern path : Text) : Bool :=
  matches_ pattern path ||
    match pattern with
    | .char '*' :: .char '*' :: .char '/' :: r => matches_ r path
    | _ => false

def acceptsAny (patterns : List Text) (path : Text) : Bool := patterns.any (accepts · path)

end PackageAudit.Glob
