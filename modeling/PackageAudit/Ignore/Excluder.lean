import PackageAudit.File.Tree
import PackageAudit.Ignore.Rule

namespace PackageAudit.Ignore

def defaultPatterns : List String :=
  ["node_modules", ".git", "dist", "build", "coverage", ".next", ".nuxt", "out", ".depusage",
   "bower_components"]

def ignoreFiles : List String := [".gitignore", ".eslintignore"]

structure Excluder where
  root : Path
  patterns : List Text
  sources : List Text
  rules : List Rule

/-- The patterns of an ignore file: its lines without blanks around them, blank lines and comments
aside. -/
def patternsOf (content : Text) : List Text :=
  ((Text.lines content).filter fun l ↦
    !(Text.trim l).isEmpty && l.head? ≠ some (.char '#')).map Text.trim

def filePatterns (tree : Tree) (root : Path) : List (Path × List Text) :=
  ignoreFiles.filterMap fun name ↦
    let path := root.join (Path.ofText (Text.ofString name))
    match tree.readText path with
    | .ok content => some (path, patternsOf (Text.ofChars content))
    | .error _ => none

/-- The excluder of a project. Where ignored files are wanted too, it has no patterns. -/
def Excluder.load (tree : Tree) (root : Path) (includeIgnored : Bool) (extra : List Text) :
    Except Breakdown Excluder :=
  if includeIgnored then .ok ⟨root, [], [], []⟩
  else do
    let found := filePatterns tree root
    let patterns := defaultPatterns.map Text.ofString ++ extra ++ found.flatMap (·.2)
    let sources := Text.ofString "defaults" :: found.map (·.1.toText)
    return ⟨root, patterns, sources, ← rulesOf patterns⟩

/-- Whether a file is left aside: the rules ignore its path below the root, or the name of a
directory on the way. -/
def Excluder.excludes (e : Excluder) (file : Path) : Bool :=
  match file.relativeTo? e.root with
  | none => false
  | some path => ignores e.rules path.toText || path.parts.dropLast.any (ignores e.rules)

end PackageAudit.Ignore
