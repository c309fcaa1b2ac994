import PackageAudit.Display.WidthTable
import PackageAudit.Text.Case

namespace PackageAudit

def CodePoint.cells (c : CodePoint) : Nat :=
  let n := c.toNat
  if 32 ≤ n && n < 127 then 1
  else if CodePoint.within Display.WidthTable.none n then 0
  else if CodePoint.within Display.WidthTable.double n then 2
  else 1

namespace Text

def cells (t : Text) : Nat := t.foldr (·.cells + ·) 0

def spaces (n : Nat) : Text := List.replicate n (.char ' ')

def fitting : (room : Nat) → Text → Text × Nat
  | room, [] => ([], room)
  | room, c :: r =>
    if c.cells ≤ room then
      let (t, left) := fitting (room - c.cells) r
      (c :: t, left)
    else ([], room)

def fit (width : Nat) (t : Text) : Text :=
  let (t, left) := fitting width t
  t ++ spaces left

def crop (width : Nat) (t : Text) : Text := if t.cells ≤ width then t else t.fit width

def abridge (width : Nat) (t : Text) : Text :=
  if t.cells ≤ width then t else t.fit (width - 1) ++ [.char '…']

end Text

end PackageAudit
