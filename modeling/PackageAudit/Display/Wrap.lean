import PackageAudit.Display.Width
import PackageAudit.Text.Blank

namespace PackageAudit.Display

/-- What becomes of a word that fits on no line: it goes on in the next line, or is cut off. -/
inductive Overflow where
  | fold | ellipsis
deriving DecidableEq

inductive Alignment where
  | ragged | left | center | right
deriving DecidableEq

structure Layout where
  overflow : Overflow := .fold
  alignment : Alignment := .ragged

def pieces (t : Text) : List Text :=
  let front := t.takeWhile (·.isSpace)
  match go (t.drop front.length) with
  | [] => []
  | p :: ps => (front ++ p) :: ps
where
  go : Text → List Text
    | [] => []
    | c :: r =>
      match r with
      | [] => [[c]]
      | d :: _ =>
        if c.isSpace && !d.isSpace then [c] :: go r
        else match go r with
          | [] => [[c]]
          | p :: ps => (c :: p) :: ps

/-- The parts of a word that each fit into the width, except where one code point does not. -/
def chop (width : Nat) : (used : Nat) → Text → List Text
  | _, [] => [[]]
  | used, c :: r =>
    let here := fun (t : List Text) ↦
      match t with
      | [] => [[c]]
      | p :: ps => (c :: p) :: ps
    if used + c.cells ≤ width then here (chop width (used + c.cells) r)
    else [] :: here (chop width c.cells r)

/-- Lines in the making: those that are done, the last one first, and the one that grows. -/
structure Paragraph where
  done : List Text := []
  current : Text := []
  used : Nat := 0

namespace Paragraph

def isFresh (p : Paragraph) : Bool := p.done.isEmpty && p.current.isEmpty

def endLine (p : Paragraph) : Paragraph :=
  if p.isFresh then p else ⟨p.current :: p.done, [], 0⟩

def append (p : Paragraph) (t : Text) : Paragraph :=
  { p with current := p.current ++ t, used := p.used + t.cells }

def add (width : Nat) (overflow : Overflow) (p : Paragraph) (piece : Text) : Paragraph :=
  let needed := (Text.trimEnd piece).cells
  if p.used + needed ≤ width then p.append piece
  else if needed ≤ width then p.endLine.append piece
  else match overflow with
    | .ellipsis => p.endLine.append piece
    | .fold => (chop width 0 piece).foldl (fun p t ↦ p.endLine.append t) p

def lines (p : Paragraph) : List Text := (p.current :: p.done).reverse

end Paragraph

def breakLine (width : Nat) (overflow : Overflow) (t : Text) : List Text :=
  match pieces t with
  | [] => [t]
  | ps => (ps.foldl (Paragraph.add width overflow) {}).lines

/-- The line without blanks at its end, as far as it has too many code points. -/
def trimExcess (width : Nat) (t : Text) : Text :=
  let blanks := (t.reverse.takeWhile (·.isSpace)).length
  t.take (t.length - min blanks (t.length - width))

def limit (width : Nat) : Overflow → Text → Text
  | .fold => Text.crop width
  | .ellipsis => Text.abridge width

def align (width : Nat) (layout : Layout) (t : Text) : Text :=
  let cut := limit width layout.overflow
  match layout.alignment with
  | .ragged => cut t
  | .left =>
    let t := cut t
    t ++ Text.spaces (width - t.cells)
  | .center =>
    let t := cut (Text.trimEnd t)
    let room := width - t.cells
    Text.spaces (room / 2) ++ t ++ Text.spaces (room - room / 2)
  | .right =>
    let t := cut (Text.trimEnd t)
    Text.spaces (width - t.cells) ++ t

/-- A tab is a space, and more up to the next of the stops that stand every eight cells. -/
def expandTabs : (used : Nat) → Text → Text
  | _, [] => []
  | used, c :: r =>
    if c = .char '\t' then
      let filled := (used + 1 + 7) / 8 * 8
      Text.spaces (filled - used) ++ expandTabs filled r
    else c :: expandTabs (used + c.cells) r

/-- The lines of a text in a width. Where there is no room at all, nothing is shown. -/
def wrap (width : Nat) (layout : Layout) (t : Text) : List Text :=
  if width = 0 then []
  else (Text.splitOn (.char '\n') t).flatMap fun line ↦
    (breakLine width layout.overflow (expandTabs 0 line)).map fun l ↦
      align width layout (trimExcess width l)

end PackageAudit.Display
