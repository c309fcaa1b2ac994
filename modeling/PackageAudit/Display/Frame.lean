import PackageAudit.Display.Wrap

namespace PackageAudit.Display.Frame

def stroke (n : Nat) : Text := List.replicate n (.char '─')

def titled (length : Nat) (title : Text) : Text :=
  let t := Text.crop length (" " ++ title ++ " ")
  let room := length - t.cells
  stroke (room / 2) ++ t ++ stroke (room - room / 2)

def top (width : Nat) (title : Option Text) : Text :=
  "╭" ++ (match title with
    | some t => if width ≤ 4 then stroke (width - 2) else "─" ++ titled (width - 4) t ++ "─"
    | none => stroke (width - 2)) ++ "╮"

def bottom (width : Nat) : Text := "╰" ++ stroke (width - 2) ++ "╯"

def inside (width : Nat) : Nat := width - 2 - 2

def side : Text := "│ "

def around (width : Nat) (title : Option Text) (ls : List Text) : List Text :=
  [top width title] ++
    (if width < 5 then [] else ls.map fun l ↦ side ++ l.fit (inside width) ++ side.reverse) ++
    [bottom width]

def fitting (width : Nat) (t : Text) : List Text :=
  let width := min width (t.cells + 4)
  around width none (wrap (inside width) {} t)

end PackageAudit.Display.Frame
