import PackageAudit.Text.Case

namespace PackageAudit

/-- The root is empty, one slash or two. No part is empty or a single point. -/
structure Path where
  root : Text
  parts : List Text
deriving DecidableEq, Inhabited

namespace Path

def slash : CodePoint := .char '/'

def dot : CodePoint := .char '.'

def up : Text := [dot, dot]

def rootOf (t : Text) : Text :=
  match (t.take 3).takeWhile (· = slash) with
  | [a] => [a]
  | [a, b] => [a, b]
  | _ :: _ => [slash]
  | [] => []

def ofText (t : Text) : Path :=
  ⟨rootOf t, (Text.splitOn slash t).filter fun part ↦ part != [] && part != [dot]⟩

def isAbsolute (p : Path) : Bool := !p.root.isEmpty

/-- `q` as seen from `p`: an absolute path stands for itself. -/
def join (p q : Path) : Path :=
  if q.isAbsolute then q else ⟨p.root, p.parts ++ q.parts⟩

def toText (p : Path) : Text :=
  match p.root ++ Text.joinWith [slash] p.parts with
  | [] => [dot]
  | t => t

def name (p : Path) : Text := (p.parts.getLast?).getD []

/-- A part from its last point on, if there is something on both sides of that point. -/
def suffixOf (part : Text) : Text :=
  let tail := part.reverse.takeWhile (· != dot)
  if tail.isEmpty || part.length ≤ tail.length + 1 then [] else dot :: tail.reverse

def suffix (p : Path) : Text := suffixOf p.name

def parent (p : Path) : Path := ⟨p.root, p.parts.dropLast⟩

/-- The path without parts that lead upwards, as far as names tell. -/
def straighten (p : Path) : Path :=
  { p with parts := p.parts.foldl (fun l part ↦ if part = up then l.dropLast else l ++ [part]) [] }

/-- What leads from `base` to `p`, if `p` lies at or below it. -/
def relativeTo? (p base : Path) : Option Path :=
  if p.root = base.root && base.parts.isPrefixOf p.parts then
    some ⟨[], p.parts.drop base.parts.length⟩
  else none

end Path

end PackageAudit
