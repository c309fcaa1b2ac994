import PackageAudit.Text.CodePoint

namespace PackageAudit.Text

/-- One part of a phrase. The text of a captured run is the answer of the search. -/
inductive Part where
  | exactly (t : Text)
  | one (p : CodePoint → Bool)
  | long (p : CodePoint → Bool) (least : Nat) (captured : Bool)
  /-- As few code points with the property as fit. -/
  | short (p : CodePoint → Bool)

/-- A phrase found: its text, the part of it that is captured, and the text behind it. -/
structure Found where
  matched : Text
  captured : Text
  rest : Text
deriving DecidableEq

namespace Found

def behind (t : Text) (f : Found) : Found := { f with matched := t ++ f.matched }

def take (captured : Bool) (c : CodePoint) (f : Found) : Found :=
  { f with matched := c :: f.matched, captured := if captured then c :: f.captured else f.captured }

end Found

/-- The longest run of at least `least` code points behind which `next` succeeds; its answer is
extended by each code point of the run. -/
def longRun {α : Type} (p : CodePoint → Bool) (extend : CodePoint → α → α)
    (next : Text → Option α) : (least : Nat) → Text → Option α
  | least, [] => if least = 0 then next [] else none
  | least, c :: r =>
    let stop := fun (_ : Unit) ↦ if least = 0 then next (c :: r) else none
    if p c then
      match longRun p extend next (least - 1) r with
      | some a => some (extend c a)
      | none => stop ()
    else stop ()

def shortRun {α : Type} (p : CodePoint → Bool) (extend : CodePoint → α → α)
    (next : Text → Option α) : Text → Option α
  | [] => next []
  | c :: r =>
    match next (c :: r) with
    | some a => some a
    | none => if p c then (shortRun p extend next r).map (extend c) else none

def matchPhrase : List Part → Text → Option Found
  | [], t => some ⟨[], [], t⟩
  | .exactly s :: ps, t =>
    if s.isPrefixOf t then (matchPhrase ps (t.drop s.length)).map (·.behind s) else none
  | .one p :: ps, t =>
    match t with
    | c :: r => if p c then (matchPhrase ps r).map (Found.take false c) else none
    | [] => none
  | .long p least captured :: ps, t => longRun p (Found.take captured) (matchPhrase ps) least t
  | .short p :: ps, t => shortRun p (Found.take false) (matchPhrase ps) t

/-- All phrases from left to right, none inside another. Each starts where `start` allows it, given
the code point before it; the first `inside` code points belong to the phrase found last. -/
def findFrom (phrase : List Part) (start : Option CodePoint → Bool) :
    (before : Option CodePoint) → (inside : Nat) → Text → List Found
  | _, _, [] => []
  | _, inside + 1, c :: r => findFrom phrase start (some c) inside r
  | before, 0, c :: r =>
    match (if start before then matchPhrase phrase (c :: r) else none) with
    | some f => f :: findFrom phrase start (some c) (f.matched.length - 1) r
    | none => findFrom phrase start (some c) 0 r

def findAll (phrase : List Part) (start : Option CodePoint → Bool) (t : Text) : List Found :=
  findFrom phrase start none 0 t

end PackageAudit.Text
