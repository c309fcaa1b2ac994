import PackageAudit.Script.Repair.Attempt

namespace PackageAudit.Script.Repair

open Syntax

/-- A way to take back parts: how many, where the first of them starts in the draft, how many trees
they make, and what is left. -/
structure Retreat where
  depth : Nat
  start : Nat
  trees : Nat
  left : List Part

def deepest : Nat := 15

def retreats (piles : List (List Part)) (place : Nat) : List Retreat :=
  let all := (List.range (deepest + 1)).flatMap fun depth ↦
    piles.filterMap fun parts ↦
      let taken := parts.take depth
      if parts.length < depth then none
      else some
        ⟨depth, (taken.getLast?.map (·.start)).getD place, treesOf taken,
          parts.drop depth⟩
  all.foldl (fun kept r ↦
    if kept.any fun k ↦ k.depth = r.depth && k.start = r.start then kept else kept ++ [r]) []

/-- Whether the same tokens may follow two piles, as both end in a list. -/
def isAlike (left right : List Part) : Bool :=
  let inList (parts : List Part) := (parts.head?.map (·.form)) = some .series
  inList left && inList right && left.map (·.start) = right.map (·.start)

/-- Whether the parts leave a literal open that the token does not close. -/
def refuses (text : List Char) (parts : List Part) (token : String) : Bool :=
  match parts with
  | p :: q :: _ =>
    if p.form = .opening then isWithin p
    else p.form = .series && q.form = .opening && isWithin q
  | [p] => p.form = .opening && isWithin p
  | [] => false
where
  isWithin (p : Part) : Bool :=
    match text[p.start]? with
    | some '\x60' => !(["\x60", "$\x7b"].contains token)
    | some '/' => true
    | some c => token != String.singleton c
    | none => false

/-- Takes back as few parts as let the next token follow. Gives the attempt that does and the places
found not to. -/
def takeBack (j : Job) (c : Contest) (others : List Attempt) (a : Attempt) (s : Stuck) :
    Option Attempt × List Nat :=
  let here := a.draft.ahead next.before
  let (start, stop) := s.aside.getD (here, here)
  search stop ((retreats s.piles start).filter fun r ↦ r.depth != 0 || s.aside.isSome) []
where
  next : Lexeme := j.lexeme a.next
  /-- The attempt without what is taken back and set aside, which make up one error. An error right
  before them becomes part of it. -/
  behind (stop : Nat) (r : Retreat) (b : Attempt) : Attempt :=
    let fault := Node.leaf .error true (a.draft.origin r.start) (a.draft.origin stop)
    let earlier := a.faults.filter (·.start < fault.start)
    let b := { b with
      cost := a.cost + j.extent fault.start fault.stop + treeCost * (r.trees + s.tokens)
      progress := s.tokens + 2 }
    match earlier.find? (j.adjoins · fault) with
    | some n =>
      { b with
        cost := b.cost + j.extent n.stop fault.start
        faults := { fault with start := n.start } :: earlier.filter (·.start < n.start) }
    | none => { b with cost := b.cost + faultCost, faults := fault :: earlier }
  search (stop : Nat) : List Retreat → (refused : List Nat) → Option Attempt × List Nat
    | [], refused => (none, refused)
    | r :: more, refused =>
      let size := j.extent (a.draft.origin r.start) (a.draft.origin stop)
      let estimate := a.due j + treeCost * (r.depth + 1) + size
      if others.any fun b ↦ b.next = a.next && b.settled.any (isAlike r.left) then
        search stop more refused
      else if c.beaten j others a.next ⟨estimate, false, a.progress⟩ then (none, refused)
      else if s.refused.contains (r.start, next.sort) || refuses a.draft.text r.left next.text then
        search stop more refused
      else
        let b := a.on j (a.draft.without r.start (a.draft.ahead next.start))
        if b.passes j then (some (behind stop r b), refused)
        else search stop more (r.start :: refused)

def setAside (j : Job) (a : Attempt) (s : Stuck) : Attempt :=
  let l := j.lexeme a.next
  let start := (s.aside.map (·.1)).getD (a.draft.ahead l.start)
  let tokens := s.tokens + if l.known then 1 else 0
  { a with
    mode := .stuck { s with aside := some (start, a.draft.ahead l.stop), tokens }
    next := a.next + 1
    progress := tokens + 1 }

def surrender (j : Job) (a : Attempt) (s : Stuck) : Attempt :=
  let start := (j.source.takeWhile isBlank).length
  let trees := treesOf (s.piles.head?.getD [])
  { a with
    cost := a.cost + faultCost + j.extent start j.source.length + treeCost * (trees + s.tokens)
    faults := [.leaf .error true start j.source.length] }

/-- One step of a stuck attempt: the attempt itself if it goes on, and the one that takes back
parts. -/
def recover (j : Job) (c : Contest) (others : List Attempt) (a : Attempt) (s : Stuck) :
    Contest × Option Attempt × List Attempt :=
  let l := j.lexeme a.next
  let (back, refused) := if l.known then takeBack j c others a s else (none, [])
  if j.isEnd a.next then (c.finish (surrender j a s), none, back.toList)
  else
    let s := { s with refused := refused.foldl (fun r place ↦ r.insert (place, l.sort)) s.refused }
    let b := setAside j a s
    if c.beaten j others a.next ⟨b.due j, false, a.progress⟩ then (c, none, back.toList)
    else (c, some b, back.toList)

/-- Tokens that may be supplied before the next one, in the order in which they are tried. Behind
the end of a tag any text could go on, so a tag ends for good unless something opens. -/
def supplies (next : String) : List (String × Kind) :=
  let ends := if ["<", "\x7b"].contains next then [">", "/>"] else ["/>", ">"]
  ("x", .identifier) :: (["\x7d", ";", ")", ":", "]"] ++ ends).map fun t ↦ (t, .token t)

def headWords : List String :=
  ["const", "var", "function", "class", "interface", "enum", "type", "namespace", "module"]

/-- Whether a token supplied ends a phrase, as it must. The parts behind it tell, except for a name
and for the colon of a case. -/
def endsPhrase (j : Job) (a : Attempt) (token : String) (place : Nat) (behind : Reach) : Bool :=
  match token with
  | "x" =>
    let words := (lexemes false (a.draft.text.take place) 0 0 0).map (·.text)
    match words.reverse with
    | last :: second :: _ =>
      !headWords.contains last && !(last = "(" && second = "catch") && (j.lexeme a.next).text != "=>"
    | [last] => !headWords.contains last
    | [] => true
  | ":" => ["\x7d", "case", "default"].contains ((j.lexeme a.next).text)
  | _ => behind.piles.any fun parts ↦ (parts.head?.map (·.start)).any (· < place)

def supplied (j : Job) (a : Attempt) : Option Attempt :=
  let place := (j.lexeme a.next).before
  let here := a.draft.ahead place
  let mayEnd := j.isEnd a.next || (j.slice place (j.lexeme a.next).start).contains '\n' ||
    (j.lexeme a.next).text = "\x7d"
  (supplies (j.lexeme a.next).text).findSome? fun (text, kind) ↦
    let draft := a.draft.supply here text mayEnd
    let b := a.on j draft
    let behind := (survey j.dialect (draft.text.take (here + text.length + 1))).2
    if b.passes j && endsPhrase j a text here behind then
      some { b with
        cost := a.cost + missingCost
        progress := a.progress + 1
        faults := { Node.absent "" place with kind } :: a.faults
        settled := behind.piles }
    else none

end PackageAudit.Script.Repair
