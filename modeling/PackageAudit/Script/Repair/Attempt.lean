import PackageAudit.Script.Program
import PackageAudit.Script.Repair.Draft
import PackageAudit.Script.Repair.Lexeme

namespace PackageAudit.Script.Repair

open Syntax

def faultCost : Nat := 500

def treeCost : Nat := 100

def missingCost : Nat := faultCost + 110

def lineCost : Nat := 30

/-- How far two costs may differ, for each node read since, before the worse attempt is given up. -/
def patience : Nat := 18 * treeCost

/-- A faulty source, with its tokens from the first fault on. -/
structure Job where
  dialect : Dialect
  source : List Char
  lexemes : Array Lexeme
  /-- For each place, what it costs by its size to set aside all before it. -/
  extents : Array Nat

namespace Job

def ofSource (dialect : Dialect) (source : List Char) (place : Nat) : Job where
  dialect
  source
  lexemes := (Repair.lexemes dialect.hasMarkup (source.drop place) place place 0).toArray
  extents := source.foldl (fun sums c ↦
    sums.push (sums.back?.getD 0 + c.utf8Size + if c = '\n' then lineCost else 0)) #[0]

def lexeme (j : Job) (n : Nat) : Lexeme :=
  let stop := j.source.length
  j.lexemes[n]?.getD ⟨stop - (j.source.reverse.takeWhile isBlank).length, stop, stop, "", true⟩

def isEnd (j : Job) (n : Nat) : Bool := j.lexemes.size ≤ n

def slice (j : Job) (start stop : Nat) : List Char := (j.source.drop start).take (stop - start)

def extent (j : Job) (start stop : Nat) : Nat := j.extents[stop]?.getD 0 - j.extents[start]?.getD 0

def adjoins (j : Job) (n m : Node) : Bool :=
  n.kind = .error && (j.slice n.stop m.start).all isBlank

end Job

/-- Where an attempt is stuck: the parts behind it, and what it has set aside since. -/
structure Stuck where
  piles : List (List Part)
  aside : Option (Nat × Nat)
  /-- How many of them. -/
  tokens : Nat
  /-- Sorts of token that may not stand behind what is left at those places. -/
  refused : Std.HashSet (Nat × String)

inductive Mode where
  | reading
  | paused
  | stuck (s : Stuck)

structure Attempt where
  draft : Draft
  reach : Reach
  /-- The draft can be read to its end. -/
  whole : Bool
  mode : Mode
  next : Nat
  cost : Nat
  progress : Nat
  /-- The faults so far, nearest first. -/
  faults : List Node
  settled : List (List Part)

namespace Attempt

def on (a : Attempt) (j : Job) (draft : Draft) : Attempt :=
  let (answer, reach) := survey j.dialect draft.text
  { a with draft, reach, whole := answer.isSome, mode := .reading, settled := [] }

def passes (a : Attempt) (j : Job) : Bool :=
  if j.isEnd a.next then a.whole else a.draft.ahead (j.lexeme a.next).stop ≤ a.reach.offset

def isStuck (a : Attempt) : Bool := a.mode matches .stuck _

def isPaused (a : Attempt) : Bool := a.mode matches .paused

def due (a : Attempt) (j : Job) : Nat :=
  match a.mode with
  | .reading => a.cost
  | .paused => a.cost + faultCost + treeCost
  | .stuck s =>
    let size := (s.aside.map fun (start, stop) ↦
      j.extent (a.draft.origin start) (a.draft.origin stop)).getD 0
    a.cost + faultCost + size + treeCost * s.tokens

end Attempt

structure Standing where
  cost : Nat
  atFault : Bool
  progress : Nat

def Attempt.standing (a : Attempt) (j : Job) : Standing :=
  ⟨a.due j, !(a.mode matches .reading), a.progress⟩

namespace Standing

def beats (a b : Standing) : Bool :=
  if a.atFault = b.atFault then
    a.cost < b.cost && patience < (b.cost - a.cost) * (1 + a.progress)
  else !a.atFault && a.cost < b.cost

def precedes (a b : Standing) : Bool :=
  if a.atFault = b.atFault then a.cost < b.cost else !a.atFault

end Standing

/-- The attempts under way, best first, and the best one at the end of the source. -/
structure Contest where
  attempts : List Attempt
  finished : Option Attempt
  begun : Nat

namespace Contest

/-- Adds an attempt at the end. Of two that cost the same the later one counts. -/
def finish (c : Contest) (a : Attempt) : Contest :=
  match c.finished with
  | some b => if b.cost < a.cost then c else { c with finished := some a }
  | none => { c with finished := some a }

def beaten (c : Contest) (j : Job) (others : List Attempt) (next : Nat) (s : Standing) : Bool :=
  c.finished.any (·.cost ≤ s.cost) ||
    others.any fun b ↦ !b.isPaused && next ≤ b.next && (b.standing j).beats s

end Contest

end PackageAudit.Script.Repair
