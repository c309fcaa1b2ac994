import PackageAudit.File.Tree
import PackageAudit.Json.Document
import PackageAudit.Json.Printer

namespace PackageAudit.Project

open Json (Value)

namespace Manifest

inductive Error where
  | notFound (path : Path)
  | malformed (fault : Json.Fault) (content : Text) (place : Nat)
  | notObject
  | sectionNotObject (name : String)
  | broken (b : Breakdown)
deriving DecidableEq

def Error.message : Error → Text
  | notFound path => "Manifest not found: " ++ path.toText
  | malformed fault content place => "Invalid package.json: " ++ Json.describe fault content place
  | notObject => "package.json must contain a JSON object"
  | sectionNotObject name => Text.ofString s!"'{name}' in package.json must be an object"
  | broken _ => []

/-- The sections with dependencies. A later one wins. -/
def sections : List String := ["dependencies", "devDependencies"]

/-- The entries of a section, of which there are none if it is absent or counts as such. -/
def entries (manifest : Value) (name : String) : Except Error (List (Text × Value)) :=
  match manifest.member? name with
  | none => .ok []
  | some v =>
    if v.isFalsy then .ok []
    else match v with
      | .object members => .ok members
      | _ => .error (.sectionNotObject name)

def addSection (known : Keyed Text) (members : List (Text × Value)) : Keyed Text :=
  members.foldl (fun m e ↦ m.insert e.1 (Json.displayPlain e.2)) known

/-- The dependencies that a manifest declares. -/
def parse (content : Text) : Except Error (Keyed Text) := do
  match Json.readDocument content with
  | .error (.malformed fault content place) => throw (.malformed fault content place)
  | .error (.broken b) => throw (.broken b)
  | .ok v =>
    match v with
    | .object _ => sections.foldlM (fun known name ↦ return addSection known (← entries v name)) []
    | _ => throw .notObject

def load (tree : Tree) (path : Path) : Except Error (Keyed Text) :=
  if tree.has path then
    match tree.readText path with
    | .ok content => parse (Text.ofChars content)
    | .error b => .error (.broken b)
  else .error (.notFound path)

end Manifest

end PackageAudit.Project
