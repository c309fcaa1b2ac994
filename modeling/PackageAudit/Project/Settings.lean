import PackageAudit.File.Tree
import PackageAudit.Json.Access
import PackageAudit.Json.Document
import PackageAudit.Json.Printer
import PackageAudit.Project.Layout
import PackageAudit.Risk.Score
import PackageAudit.Text.Blank

namespace PackageAudit.Project

open Json (Value)

namespace Settings

inductive Error where
  | notFound (path : Path)
  | malformed (path : Path) (fault : Json.Fault) (content : Text) (place : Nat)
  | notObject (path : Path)
  | workers (found : Value)
  | exampleCap (found : Value)
  | notNumber (found : Text)
  /-- A weight or threshold is neither a number nor a text. -/
  | noNumber (kind : String)
  | thresholds
  | broken (b : Breakdown)

def Error.message : Error → Text
  | notFound path => "Config file not found: " ++ path.toText
  | malformed path fault content place =>
    "Invalid JSON in " ++ path.toText ++ ": " ++ Json.describe fault content place
  | notObject path => path.toText ++ " must contain a JSON object"
  | workers found => "analysis.workers must be a positive integer, got " ++ Json.display found
  | exampleCap found =>
    "analysis.usage_example_cap must be a non-negative integer, got " ++ Json.display found
  | notNumber found =>
    "Invalid risk configuration: could not convert string to float: " ++ Text.quoted found
  | noNumber kind => Text.ofString
    s!"Invalid risk configuration: float() argument must be a string or a real number, not '{kind}'"
  | thresholds => "risk.thresholds.low must not exceed risk.thresholds.medium"
  | broken _ => []

def defaultIncludes : List String :=
  ["**/*.js", "**/*.jsx", "**/*.mjs", "**/*.cjs", "**/*.ts", "**/*.tsx", "**/*.mts", "**/*.cts"]

def defaultExcludes : List String :=
  ["**/*.min.js", "**/*.d.ts", "**/__tests__/**", "**/*.test.*", "**/*.spec.*"]

def defaultExampleCap : Int := 10

def default : Value :=
  let risk := Risk.Config.default
  .members
    [("version", .text "1.0"),
     ("analysis", .members
       [("include", .texts (defaultIncludes.map Text.ofString)),
        ("exclude", .texts (defaultExcludes.map Text.ofString)),
        ("workers", .integer 1), ("usage_example_cap", .integer defaultExampleCap)]),
     ("risk", .members
       [("weights", .members
          [("usage", .float risk.usage), ("symbol", .float risk.symbol),
           ("complexity", .float risk.complexity)]),
        ("thresholds", .members [("low", .float risk.low), ("medium", .float risk.medium)])])]

def write (settings : Value) : Text := Json.write .ascii 0 settings

def load (tree : Tree) (path : Path) : Except Error Value :=
  match tree.readText path with
  | .error b => .error (.broken b)
  | .ok content =>
    match Json.readDocument (Text.ofChars content) with
    | .error (.malformed fault content place) => .error (.malformed path fault content place)
    | .error (.broken b) => .error (.broken b)
    | .ok (.object ms) => .ok (.object ms)
    | .ok _ => .error (.notObject path)

/-- The settings at the given path, else those of the project, else the defaults. -/
def choose (tree : Tree) (project : Path) (given : Option Path) : Except Error Value :=
  match given with
  | some path => if tree.has path then load tree path else .error (.notFound path)
  | none =>
    let path := configPath project
    if tree.has path then load tree path else .ok default

def get (v : Value) (key : String) (absent : Value) : Except Error Value :=
  (v.get key absent).mapError .broken

def analysis (settings : Value) (key : String) (absent : Value) : Except Error Value := do
  get (← get settings "analysis" (.object [])) key absent

def includes (settings : Value) : Except Error Value :=
  analysis settings "include" (.texts (defaultIncludes.map Text.ofString))

def excludes (settings : Value) : Except Error Value :=
  analysis settings "exclude" (.texts (defaultExcludes.map Text.ofString))

/-- The whole number that a value stands for: true counts one and false none. -/
def wholeNumber? : Value → Option Int
  | .integer n => some n
  | .bool b => some (if b then 1 else 0)
  | _ => none

/-- The value under a key, if it is a whole number not below `least`. -/
def counted (settings : Value) (key : String) (absent least : Int) (error : Value → Error) :
    Except Error (Value × Int) := do
  let v ← analysis settings key (.integer absent)
  match wholeNumber? v with
  | some n => if n < least then throw (error v) else return (v, n)
  | none => throw (error v)

def workers (settings : Value) : Except Error (Value × Int) :=
  counted settings "workers" 1 1 .workers

def exampleCap (settings : Value) : Except Error (Value × Int) :=
  counted settings "usage_example_cap" defaultExampleCap 0 .exampleCap

/-- Blanks around a number. The information separators are not among them. -/
def isNumberBlank (c : CodePoint) : Bool := c.isSpace && !(0x1c ≤ c.toNat && c.toNat ≤ 0x1f)

def trimNumber (t : Text) : Text :=
  ((t.dropWhile isNumberBlank).reverse.dropWhile isNumberBlank).reverse

def number : Value → Except Error Float
  | .float x => .ok x
  | .bool b => .ok (if b then 1 else 0)
  | .integer n =>
    let x : Float := n
    if x.isInf then .error (.broken .tooLarge) else .ok x
  | .string t => ((Decimal.readPlain? (trimNumber t)).map Except.ok).getD (.error (.notNumber t))
  | .null => .error (.noNumber "NoneType")
  | .array _ => .error (.noNumber "list")
  | .object _ => .error (.noNumber "dict")

def numberAt (v : Value) (key : String) (absent : Float) : Except Error Float := do
  number (← get v key (.float absent))

def risk (settings : Value) : Except Error (Risk.Config Float) := do
  let v ← get settings "risk" (.object [])
  let weights ← get v "weights" (.object [])
  let thresholds ← get v "thresholds" (.object [])
  let d := Risk.Config.default
  let usage ← numberAt weights "usage" d.usage
  let symbol ← numberAt weights "symbol" d.symbol
  let complexity ← numberAt weights "complexity" d.complexity
  let low ← numberAt thresholds "low" d.low
  let medium ← numberAt thresholds "medium" d.medium
  if medium < low then throw .thresholds
  return ⟨usage, symbol, complexity, low, medium⟩

end Settings

end PackageAudit.Project
