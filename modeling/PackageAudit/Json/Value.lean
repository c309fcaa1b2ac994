import PackageAudit.Text.Keyed

namespace PackageAudit.Json

inductive Value where
  | null
  | bool (b : Bool)
  | integer (n : Int)
  | float (x : Float)
  | string (t : Text)
  | array (items : List Value)
  | object (members : List (Text × Value))
deriving Inhabited

namespace Value

def text (s : String) : Value := .string (Text.ofString s)

def texts (ts : List Text) : Value := .array (ts.map .string)

def members (ms : List (String × Value)) : Value :=
  .object (ms.map fun m ↦ (Text.ofString m.1, m.2))

def member? (v : Value) (key : String) : Option Value :=
  match v with
  | .object members => Keyed.get? members (Text.ofString key)
  | _ => none

def isFalsy : Value → Bool
  | .null => true
  | .bool b => !b
  | .integer n => n = 0
  | .float x => x == 0
  | .string t => t.isEmpty
  | .array items => items.isEmpty
  | .object members => members.isEmpty

end Value

end PackageAudit.Json
