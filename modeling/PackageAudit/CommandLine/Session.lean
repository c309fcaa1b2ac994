import PackageAudit.CommandLine.Arguments
import PackageAudit.Display.Frame
import PackageAudit.Display.Grid
import PackageAudit.Display.Outline
import PackageAudit.File.Tree

namespace PackageAudit.CommandLine

structure State where
  tree : Tree
  width : Nat
  printed : List Text := []

inductive Ending where
  | done
  | failed
  | misused (e : UsageError)
  | broken (b : Breakdown)
deriving DecidableEq

def Ending.status : Ending → Nat
  | done => 0
  | misused _ => 2
  | failed | broken _ => 1

abbrev Session := ExceptT Ending (StateM State)

namespace Session

open Display (Label Grid Outline)

def width : Session Nat := return (← get).width

def tree : Session Tree := return (← get).tree

def attempt {α : Type} : Except Breakdown α → Session α
  | .ok a => return a
  | .error b => throw (.broken b)

def printLines (ls : List Text) : Session Unit := modify fun s ↦
  { s with printed := s.printed ++ ls.map (Text.crop s.width) }

def print (t : Text) : Session Unit := do
  printLines (Display.wrap (← width) {} (← attempt (Display.Markup.plain t)))

def printBlank : Session Unit := printLines [[]]

def printGrid (g : Grid) : Session Unit := do printLines (g.lines (← width))

def printOutline (o : Outline Label) : Session Unit := do
  printBlank
  printLines (← attempt (o.shown (← width)))
  printBlank

def fail {α : Type} (message : Text) : Session α := do
  print message
  throw .failed

def change (f : Tree → Except Breakdown Tree) : Session Unit := do
  let t ← attempt (f (← tree))
  modify fun s ↦ { s with tree := t }

def outcome (s : Session Unit) (start : State) : Ending × State :=
  match s start with
  | (.ok (), state) => (.done, state)
  | (.error e, state) => (e, state)

end Session

end PackageAudit.CommandLine
