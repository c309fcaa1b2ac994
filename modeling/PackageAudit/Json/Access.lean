import PackageAudit.Breakdown
import PackageAudit.Json.Value

namespace PackageAudit.Json.Value

def get (v : Value) (key : String) (absent : Value) : Except Breakdown Value :=
  match v with
  | .object ms => .ok ((Keyed.get? ms (Text.ofString key)).getD absent)
  | _ => .error .noMember

def entries : Value → Except Breakdown (List (Text × Value))
  | .object ms => .ok ms
  | _ => .error .noMember

/-- What a value consists of: items, keys or code points. -/
def items : Value → Except Breakdown (List Value)
  | .array vs => .ok vs
  | .object ms => .ok (ms.map fun m ↦ .string m.1)
  | .string t => .ok (t.map fun c ↦ .string [c])
  | _ => .error .wrongType

def size (v : Value) : Except Breakdown Nat := return (← v.items).length

def asText : Value → Except Breakdown Text
  | .string t => .ok t
  | _ => .error .wrongType

end PackageAudit.Json.Value
