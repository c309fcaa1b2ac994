import PackageAudit.Breakdown
import PackageAudit.File.Encoding
import PackageAudit.File.Path

namespace PackageAudit

abbrev Location := List Text

/-- Every location above a file is a directory, named among the directories or not. Paths that are
not absolute start at the current directory. -/
structure Tree where
  files : List (Location × List UInt8)
  directories : List Location
  current : Location
deriving DecidableEq, Inhabited

namespace Tree

def content? (t : Tree) (l : Location) : Option (List UInt8) :=
  (t.files.find? (·.1 = l)).map (·.2)

def isFile (t : Tree) (l : Location) : Bool := t.files.any (·.1 = l)

def isDirectory (t : Tree) (l : Location) : Bool :=
  l.isEmpty || t.directories.any (l.isPrefixOf ·) ||
    t.files.any fun f ↦ l.isPrefixOf f.1 && f.1 ≠ l

def isBlocked (t : Tree) (l : Location) : Bool :=
  t.files.any fun f ↦ f.1.isPrefixOf l && f.1 ≠ l

def absence (t : Tree) (l : Location) : Breakdown :=
  if t.isBlocked l then .notDirectory else .missingFile

/-- One step of a path. Two points lead out of a directory, and from nowhere else. -/
def step (t : Tree) (l : Location) (part : Text) : Except Breakdown Location :=
  if part = Path.up then
    if t.isDirectory l then .ok l.dropLast
    else .error (if t.isFile l then .notDirectory else t.absence l)
  else .ok (l ++ [part])

def locate (t : Tree) (p : Path) : Except Breakdown Location :=
  (if p.isAbsolute then p.parts else t.current ++ p.parts).foldlM t.step []

def has (t : Tree) (p : Path) : Bool :=
  match t.locate p with
  | .ok l => t.isFile l || t.isDirectory l
  | .error _ => false

def read (t : Tree) (p : Path) : Except Breakdown (List UInt8) := do
  let l ← t.locate p
  match t.content? l with
  | some bytes => return bytes
  | none => throw (if t.isDirectory l then .directory else t.absence l)

def readText (t : Tree) (p : Path) : Except Breakdown (List Char) := do
  match Encoding.decode? (← t.read p) with
  | some cs => return Encoding.unifyLines cs
  | none => throw .undecodable

def set (t : Tree) (l : Location) (bytes : List UInt8) : Tree :=
  if t.isFile l then { t with files := t.files.map fun f ↦ if f.1 = l then (l, bytes) else f }
  else { t with files := t.files ++ [(l, bytes)] }

def write (t : Tree) (p : Path) (bytes : List UInt8) : Except Breakdown Tree := do
  let l ← t.locate p
  if t.isDirectory l then throw .directory
  else if t.isFile l || t.isDirectory l.dropLast then return t.set l bytes
  else throw (t.absence l)

def addDirectory (t : Tree) (p : Path) : Except Breakdown Tree := do
  let l ← t.locate p
  if t.isDirectory l then return t
  else if t.isFile l then throw .occupied
  else if t.isBlocked l then throw .notDirectory
  else return { t with directories := t.directories ++ [l] }

def below (t : Tree) (l : Location) : List Location :=
  (t.files.map (·.1)).filter fun f ↦ l.isPrefixOf f && f ≠ l

end Tree

def Location.le : Location → Location → Bool
  | [], _ => true
  | _ :: _, [] => false
  | a :: s, b :: t => if a = b then Location.le s t else Text.le a b

end PackageAudit
