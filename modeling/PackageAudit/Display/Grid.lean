import PackageAudit.Display.Wrap

namespace PackageAudit.Display

structure Column where
  heading : Text := []
  alignment : Alignment := .left

/-- Each row has a cell for each column. A grid without borders shows no title and no headings. -/
structure Grid where
  title : Text := []
  bordered : Bool
  margin : Nat
  columns : List Column
  rows : List (List Text)

def totalWidth (widths : List Nat) : Nat := widths.foldr (· + ·) 0

def nearestShare (total parts : Nat) : Nat :=
  let q := total / parts
  let r := total % parts
  if 2 * r < parts || (2 * r = parts && q % 2 = 0) then q else q + 1

/-- Takes `excess` from the marked widths in equal shares of at most `most`, where `parts` widths
are marked. -/
def takeEvenly (most : Nat) : (excess parts : Nat) → List (Nat × Bool) → List Nat
  | _, _, [] => []
  | excess, parts, (w, marked) :: ws =>
    if marked then
      let share := min most (nearestShare excess parts)
      (w - share) :: takeEvenly most (excess - share) (parts - 1) ws
    else w :: takeEvenly most excess parts ws

def narrow (room : Nat) : (steps : Nat) → List Nat → List Nat
  | 0, widths => widths
  | steps + 1, widths =>
    let excess := totalWidth widths - room
    if excess = 0 then widths
    else
      let widest := widths.foldl max 0
      let next := (widths.filter (· ≠ widest)).foldl max 0
      if widest = next then widths
      else narrow room steps
        (takeEvenly (min excess (widest - next)) excess (widths.count widest)
          (widths.map fun w ↦ (w, w = widest)))

namespace Grid

def cellsOf (g : Grid) (i : Nat) (c : Column) : List Text :=
  (if g.bordered then [c.heading] else []) ++ g.rows.map fun r ↦ (r[i]?).getD []

def cellWidth (g : Grid) (room : Nat) (t : Text) : Nat :=
  if room < 2 * g.margin + 1 then room
  else min room (min room (((Text.lines t).map Text.cells).foldl max 0) + 2 * g.margin)

def columnWidth (g : Grid) (room : Nat) (cells : List Text) : Nat :=
  (cells.map (g.cellWidth room)).foldl max 0

def borderWidth (g : Grid) : Nat := if g.bordered then g.columns.length + 1 else 0

def columnWidths (g : Grid) (room : Nat) : List Nat :=
  let columns := g.columns.mapIdx fun i c ↦ g.cellsOf i c
  let wide := columns.map fun cells ↦ max 1 (g.columnWidth room cells)
  if totalWidth wide ≤ room then wide
  else
    (columns.zip (narrow room (totalWidth wide) wide)).map fun (cells, w) ↦ g.columnWidth w cells

structure Rule where
  left : Text := []
  between : Text := []
  right : Text := []

def Rule.line (r : Rule) (cells : List Text) : Text :=
  r.left ++ Text.joinWith r.between cells ++ r.right

def Rule.across (r : Rule) (stroke : Char) (widths : List Nat) : Text :=
  r.line (widths.map fun w ↦ List.replicate w (.char stroke))

def cellLines (g : Grid) (width : Nat) (c : Column) (t : Text) : List Text :=
  let margin := Text.spaces g.margin
  (wrap (width - 2 * g.margin) ⟨.ellipsis, c.alignment⟩ t).map fun l ↦
    (margin ++ l ++ margin).fit width

def rowLines (g : Grid) (rule : Rule) (widths : List Nat) (row : List Text) : List Text :=
  let cells := (widths.zip (g.columns.zip row)).map fun (w, c, t) ↦ (w, g.cellLines w c t)
  let height := (cells.map (·.2.length)).foldl max 1
  (List.range height).map fun i ↦ rule.line (cells.map fun (w, ls) ↦ (ls[i]?).getD (Text.spaces w))

/-- The lines of a grid in a given width. A grid with borders is never narrower than its borders. -/
def lines (width : Nat) (g : Grid) : List Text :=
  let widths := g.columnWidths (width - g.borderWidth)
  let rows := fun (rule : Rule) ↦ g.rows.flatMap (g.rowLines rule widths)
  if g.bordered then
    let total := totalWidth widths + g.borderWidth
    wrap total ⟨.fold, .center⟩ g.title ++
      [Rule.across ⟨"┏", "┳", "┓"⟩ '━' widths] ++
      g.rowLines ⟨"┃", "┃", "┃"⟩ widths (g.columns.map (·.heading)) ++
      [Rule.across ⟨"┡", "╇", "┩"⟩ '━' widths] ++
      rows ⟨"│", "│", "│"⟩ ++
      [Rule.across ⟨"└", "┴", "┘"⟩ '─' widths]
  else rows {}

end Grid

end PackageAudit.Display
