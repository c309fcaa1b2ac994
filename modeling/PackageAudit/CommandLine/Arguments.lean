import PackageAudit.Text.Case
import PackageAudit.Text.Blank

namespace PackageAudit.CommandLine

/-- A switch by its spellings: two dashes before a word, or one before a single letter. -/
structure Switch where
  name : String
  spellings : List String
  valued : Bool

inductive UsageError where
  | noArguments
  | missingCommand
  | unknownCommand (name : Text)
  | unknownSwitch (spelling : Text)
  | missingValue (spelling : Text)
  | unexpectedValue (spelling : Text)
  | extraOperand (operand : Text)
  | badCount (value : Text)
deriving DecidableEq

namespace UsageError

def message : UsageError → Text
  | noArguments => "Missing arguments."
  | missingCommand => "Missing command."
  | unknownCommand name => "No such command: " ++ name
  | unknownSwitch s => "No such option: " ++ s
  | missingValue s => "Option requires an argument: " ++ s
  | unexpectedValue s => "Option does not take a value: " ++ s
  | extraOperand o => "Got unexpected extra argument: " ++ o
  | badCount v => "Not a positive integer: " ++ v

end UsageError

structure Arguments where
  given : List (String × Text) := []
  operands : List Text := []
deriving DecidableEq, Inhabited

namespace Arguments

def has (a : Arguments) (name : String) : Bool := a.given.any (·.1 = name)

def value? (a : Arguments) (name : String) : Option Text :=
  ((a.given.filter (·.1 = name)).getLast?).map (·.2)

def give (a : Arguments) (s : Switch) (value : Text) : Arguments :=
  { a with given := a.given ++ [(s.name, value)] }

end Arguments

def dash : CodePoint := .char '-'

/-- What a reader of arguments accepts. Where operands end the switches, all that follows the first
one is an operand. -/
structure Grammar where
  switches : List Switch
  operandsEndSwitches : Bool

namespace Grammar

def find? (g : Grammar) (spelling : Text) : Option Switch :=
  g.switches.find? fun s ↦ s.spellings.any fun t ↦ Text.ofString t = spelling

/-- Reads the letters behind one dash, each a switch. What follows one that takes a value is its
value; otherwise the value is the next argument, and the answer says so. -/
def readLetters (g : Grammar) (next : Option Text) (a : Arguments) :
    Text → Except UsageError (Arguments × Bool)
  | [] => .ok (a, false)
  | c :: r =>
    match g.find? [dash, c] with
    | none => .error (.unknownSwitch [dash, c])
    | some s =>
      if !s.valued then readLetters g next (a.give s []) r
      else if !r.isEmpty then .ok (a.give s r, false)
      else match next with
        | some v => .ok (a.give s v, true)
        | none => .error (.missingValue [dash, c])

def readWord (next : Option Text) (a : Arguments) (s : Switch) (spelling : Text)
    (attached : Option Text) : Except UsageError (Arguments × Bool) :=
  match s.valued, attached with
  | true, some v => .ok (a.give s v, false)
  | true, none =>
    match next with
    | some v => .ok (a.give s v, true)
    | none => .error (.missingValue spelling)
  | false, some _ => .error (.unexpectedValue spelling)
  | false, none => .ok (a.give s [], false)

def readSwitch (g : Grammar) (next : Option Text) (a : Arguments) (argument : Text) :
    Except UsageError (Arguments × Bool) :=
  let spelling := argument.takeWhile (· ≠ .char '=')
  let attached := if spelling.length < argument.length then some (argument.drop (spelling.length + 1))
    else none
  match (if 2 < spelling.length then g.find? spelling else none) with
  | some s => readWord next a s spelling attached
  | none =>
    if argument.take 2 = [dash, dash] then .error (.unknownSwitch spelling)
    else g.readLetters next a (argument.drop 1)

def isSwitch (argument : Text) : Bool := argument.head? = some dash && 1 < argument.length

def readFrom (g : Grammar) (a : Arguments) : List Text → Except UsageError Arguments
  | [] => .ok a
  | t :: ts =>
    if t = [dash, dash] then .ok { a with operands := a.operands ++ ts }
    else if isSwitch t then
      match g.readSwitch ts.head? a t with
      | .error e => .error e
      | .ok (a, false) => readFrom g a ts
      | .ok (a, true) => readFrom g a (ts.drop 1)
    else if g.operandsEndSwitches then .ok { a with operands := a.operands ++ t :: ts }
    else readFrom g { a with operands := a.operands ++ [t] } ts
termination_by ts => ts.length
decreasing_by all_goals simp only [List.length_cons, List.length_drop]; omega

def read (g : Grammar) (arguments : List Text) : Except UsageError Arguments :=
  g.readFrom {} arguments

end Grammar

/-- The digits of a number. A low line may stand between two of them. -/
def digits? : Text → Option (List Nat)
  | [] => none
  | [c] => c.digit?.map ([·])
  | c :: d :: r => do
    let n ← c.digit?
    return n :: (← if d = .char '_' then digits? r else digits? (d :: r))

/-- The whole number that a text names, with a sign and blanks around it or without. -/
def wholeNumber? (t : Text) : Option Int :=
  let value := fun (t : Text) ↦ do
    let ds ← digits? t
    if ds.length ≤ 4300 then some (ds.foldl (fun n d ↦ 10 * n + d) 0 : Nat) else none
  match Text.trim t with
  | .char '-' :: r => (value r).map fun n ↦ -(n : Int)
  | .char '+' :: r => (value r).map Int.ofNat
  | r => (value r).map Int.ofNat

end PackageAudit.CommandLine
