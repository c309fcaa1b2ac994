import PackageAudit.Display.Markup
import PackageAudit.Display.Wrap

namespace PackageAudit.Display

/-- A text that is shown, with its tags in force or as it stands. -/
inductive Label where
  | marked (t : Text)
  | verbatim (t : Text)
deriving DecidableEq, Inhabited

def Label.plain : Label → Except Breakdown Text
  | marked t => Markup.plain t
  | verbatim t => .ok (Markup.withoutControls t)

inductive Outline (α : Type) where
  | node (label : α) (children : List (Outline α))
deriving Inhabited

namespace Outline

variable {α : Type}

def label : Outline α → α
  | node a _ => a

def children : Outline α → List (Outline α)
  | node _ os => os

mutual

def plain : Outline Label → Except Breakdown (Outline Text)
  | node l os => return node (← l.plain) (← plainAll os)

def plainAll : List (Outline Label) → Except Breakdown (List (Outline Text))
  | [] => return []
  | o :: os => return (← plain o) :: (← plainAll os)

end

mutual

/-- The lines of an outline. What stands in front of the first one differs from what stands in front
of the others and of all that lies below. -/
def lines (width : Nat) (first others : Text) : Outline Text → List Text
  | node label os =>
    hang first others (wrap (width - first.cells) {} label) ++ linesBelow width others os
where
  hang (first others : Text) : List Text → List Text
    | [] => []
    | t :: ts => (first ++ t) :: ts.map (others ++ ·)

def linesBelow (width : Nat) (base : Text) : List (Outline Text) → List Text
  | [] => []
  | [o] => lines width (base ++ "└── ") (base ++ "    ") o
  | o :: os => lines width (base ++ "├── ") (base ++ "│   ") o ++ linesBelow width base os

end

def shown (width : Nat) (o : Outline Label) : Except Breakdown (List Text) :=
  return (← o.plain).lines width [] []

end Outline

end PackageAudit.Display
