import PackageAudit.File.Source
import PackageAudit.Ignore.Excluder
import PackageAudit.Json.Access

namespace PackageAudit.Project

open Json (Value)

/-- Whether some glob pattern accepts a path. The patterns are a list, the keys of an object, or the
code points of a text; each must be a text when its turn comes. -/
def anyAccepts (path : Text) : List Value → Except Breakdown Bool
  | [] => .ok false
  | .string p :: ps => if Glob.accepts p path then .ok true else anyAccepts path ps
  | _ :: _ => .error .wrongType

def accepts (patterns : Value) (path : Text) : Except Breakdown Bool := do
  anyAccepts path (← patterns.items)

def isSourceName (p : Path) : Bool :=
  (Source.extensions.map Text.ofString).contains (Source.extensionOf p)

def isWanted (excluder : Ignore.Excluder) (includes excludes : Value) (file : Path) :
    Except Breakdown Bool := do
  if !isSourceName file || excluder.excludes file then return false
  let path := ((file.relativeTo? excluder.root).getD file).toText
  if !excludes.isFalsy then
    if ← accepts excludes path then return false
  accepts includes path

/-- The wanted files below the root. -/
def findSources (tree : Tree) (root : Path) (includes excludes : Value) (includeIgnored : Bool) :
    Except Breakdown (List Path) := do
  let excluder ← Ignore.Excluder.load tree root includeIgnored []
  let files := (tree.below root.parts).mergeSort Location.le
  (files.map fun l ↦ (⟨root.root, l⟩ : Path)).filterM (isWanted excluder includes excludes)

/-- The files as sources, named by their paths below `root`. Octets that are no text are replaced.
-/
def loadSources (tree : Tree) (root : Path) (files : List Path) : List Source :=
  files.map fun f ↦
    let content := Encoding.decodeReplacing ((tree.content? f.parts).getD [])
    ⟨((f.relativeTo? root).getD f).toText, Text.ofChars (Encoding.unifyLines content)⟩

end PackageAudit.Project
