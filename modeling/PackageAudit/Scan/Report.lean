import PackageAudit.File.Source
import PackageAudit.Package.Specifier
import PackageAudit.Risk.Score
import PackageAudit.Scan.Phrases
import PackageAudit.Text.Keyed

namespace PackageAudit.Scan

structure Usage where
  files : List Text := []
  methods : List Text := []
  imports : List Text := []
deriving DecidableEq, Inhabited

structure Report where
  packages : Keyed Usage
  unused : List Text
  totalFiles : Nat

structure Mention where
  file : Source
  specifier : Text
  statement : Text

def mentions (files : List Source) : List Mention :=
  files.flatMap fun s ↦ importPhrases.flatMap fun p ↦
    (imports p s.content).map fun f ↦ ⟨s, f.captured, f.matched⟩

def Usage.add (u : Usage) (package : Text) (m : Mention) : Usage where
  files := addNew u.files m.file.name
  methods := (Scan.methods m.file.content package m.specifier).foldl addNew u.methods
  imports := u.imports ++ [m.statement]

/-- What the scan has found so far: the usages of the packages and, apart from them, which packages are
in use. -/
structure Findings where
  packages : Keyed Usage
  used : List Text := []

/-- The findings with a mention, if it names a declared package. -/
def Findings.note (found : Findings) (m : Mention) : Findings :=
  match Package.ofSpecifier? m.specifier with
  | none => found
  | some package =>
    if found.packages.contains package then
      { packages := found.packages.amend package (·.add package m)
        used := addNew found.used package }
    else found

def findings (declared : List Text) (files : List Source) : Findings :=
  (mentions files).foldl Findings.note { packages := declared.map (·, {}) }

/-- The quick scan of a batch of files for the declared packages. -/
def scan (declared : List Text) (files : List Source) : Report :=
  let found := findings declared files
  { packages := found.packages
    unused := declared.filter (!found.used.contains ·)
    totalFiles := files.length }

/-- Packages of so wide a use that every change is harder. -/
def broad : List String := ["lodash", "moment", "jquery", "angular"]

section

variable {α : Type} [Add α] [Mul α] [IntCast α] [OfScientific α]

/-- A file counts two, a method one, an import a half; for broad packages all counts half as much
again. -/
def score (package : Text) (files methods imports : Nat) : α :=
  let s := ((files * 2 + methods * 1 : Nat) : Int) + ((imports : Int) : α) * 0.5
  if broad.any (Text.ofString · = package) then s * 1.5 else s

variable [LE α] [DecidableLE α]

def Usage.level (u : Usage) (config : Risk.Config α) (package : Text) : Risk.Level :=
  config.level (score package u.files.length u.methods.length u.imports.length)

end

end PackageAudit.Scan
