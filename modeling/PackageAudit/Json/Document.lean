import PackageAudit.Breakdown
import PackageAudit.Json.Parser

namespace PackageAudit.Json

/-- Why a text is no document: a fault in it, or a limit that it exceeds. -/
inductive Refusal where
  | malformed (fault : Fault) (content : Text) (place : Nat)
  | broken (b : Breakdown)
deriving DecidableEq

def describe (fault : Fault) (content : Text) (place : Nat) : Text := fault.describe content place

def readDocument (content : Text) : Except Refusal Value :=
  match parse content with
  | .ok v => .ok v
  | .error (.malformed fault place) => .error (.malformed fault content place)
  | .error .longInteger => .error (.broken .longInteger)
  | .error .deep => .error (.broken .deepNesting)

end PackageAudit.Json
