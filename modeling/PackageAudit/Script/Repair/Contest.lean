import PackageAudit.Script.Repair.Remedy

namespace PackageAudit.Script.Repair

open Syntax

def mostAttempts : Nat := 6

def mostRepairs : Nat := 100

def insert (j : Job) (a : Attempt) : List Attempt → List Attempt
  | [] => [a]
  | b :: bs =>
    let x := a.standing j
    let y := b.standing j
    if y.beats x then b :: bs
    else if x.beats y then insert j a bs
    else if x.precedes y then a :: insert j b bs
    else b :: insert j a bs

namespace Contest

def begin (c : Contest) (j : Job) (others : List Attempt) (a : Attempt) : Contest :=
  let more := (supplied j a).toList
  let s : Stuck := ⟨a.reach.piles, none, 0, {}⟩
  let stuck := { a with mode := .stuck s, progress := 0 }
  let (c, self, back) := recover j c (others ++ more) stuck s
  { c with attempts := self.toList ++ others ++ more ++ back, begun := c.begun + 1 }

/-- Compares all attempts. If the best has met a fault, its repair begins; others that have are
given up. -/
def settle (c : Contest) (j : Job) : Contest :=
  match (c.attempts.foldl (fun kept a ↦ insert j a kept) []).take mostAttempts with
  | [] => { c with attempts := [] }
  | a :: rest =>
    let others := rest.filter (!·.isPaused)
    if a.isPaused then c.begin j others a else { c with attempts := a :: others }

def advance (c : Contest) (j : Job) (others : List Attempt) (a : Attempt) :
    Contest × Option Attempt × List Attempt :=
  match a.mode with
  | .paused => (c, some a, [])
  | .stuck s => recover j c others a s
  | .reading =>
    if !a.passes j then (c, some { a with mode := .paused }, [])
    else if j.isEnd a.next then (c.finish a, none, [])
    else (c, some { a with next := a.next + 1, progress := a.progress + 2, settled := [] }, [])

/-- Moves attempts on until each has met a fault or has come as far as the furthest. Gives the
number of the token there. -/
def round (j : Job) :
    (fuel furthest : Nat) → Contest → (done todo : List Attempt) → Nat × Contest
  | 0, furthest, c, done, todo => (furthest, { c with attempts := done ++ todo })
  | _, furthest, c, done, [] => (furthest, { c with attempts := done })
  | fuel + 1, furthest, c, done, a :: todo =>
    if a.isPaused then round j fuel furthest c (done ++ [a]) todo
    else
      match c.advance j (done ++ todo) a with
      | (c, none, made) => round j fuel furthest c done (todo ++ made)
      | (c, some b, made) =>
        if furthest < b.next || (!done.isEmpty && b.next = furthest) then
          round j fuel b.next c (done ++ [b]) (todo ++ made)
        else round j fuel furthest c done (b :: todo ++ made)

/-- Whether no attempt under way can become cheaper than the one at the end. -/
def isDecided (c : Contest) : Bool :=
  c.finished.any fun b ↦ c.attempts.all fun a ↦ a.isStuck || b.cost < a.cost

def abandon (j : Job) (a : Attempt) : Attempt :=
  let start := match (a.reach.piles.head?.getD []).reverse with
    | p :: q :: _ => if p.form = .series then q.start else p.start
    | [p] => p.start
    | [] => 0
  let place := a.draft.origin start
  { a with
    faults := .leaf .error true place j.source.length :: a.faults.filter (·.start < place) }

def winner (j : Job) : (rounds furthest : Nat) → Contest → Option Attempt
  | 0, _, c => c.finished
  | rounds + 1, furthest, c =>
    let c := c.settle j
    if c.isDecided then c.finished
    else if mostRepairs < c.begun then c.attempts.head?.map (abandon j)
    else
      let steps := mostAttempts * (j.lexemes.size + mostAttempts)
      let (furthest, c) := round j steps furthest { c with attempts := [] } [] c.attempts
      winner j rounds furthest c

end Contest

def nodesBehind (r : Reach) : Nat := nodesOf (r.piles.head?.getD [])

def faults (d : Dialect) (source : List Char) : List Node :=
  let reach := (survey d source).2
  let j := Job.ofSource d source reach.offset
  let first : Attempt :=
    { draft := .ofSource source, reach, whole := false, mode := .paused, next := 0, cost := 0
      progress := nodesBehind reach, faults := [], settled := [] }
  match Contest.winner j (2 * j.lexemes.size + mostAttempts) 0 ⟨[first], none, 0⟩ with
  | some a => a.faults.reverse
  | none => [.leaf .error true (source.takeWhile isBlank).length source.length]

end PackageAudit.Script.Repair
