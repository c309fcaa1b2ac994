import PackageAudit.Display.EmojiTable
import PackageAudit.Text.Blank
import PackageAudit.Text.Case

namespace PackageAudit.Display.Emoji

def colon : CodePoint := .char ':'

def pairs : List Text → List (Text × Text)
  | name :: picture :: more => (name, picture) :: pairs more
  | _ => []

def pictures : List (Text × Text) :=
  EmojiTable.lines.flatMap fun line ↦ pairs (Text.splitOn colon (Text.ofString line))

def named? (name : Text) : Option Text :=
  let small := Text.lower name
  (pictures.find? (·.1 = small)).map (·.2)

/-- Endings of names, with the code points by which they are obeyed. -/
def variants : List (String × Text) :=
  [("-emoji", [.ofNat 0xfe0f]), ("-text", [.ofNat 0xfe0e])]

def picture? (name : Text) : Option Text :=
  match variants.find? fun v ↦ (Text.ofString v.1).isSuffixOf name with
  | some (ending, selector) =>
    (named? (name.take (name.length - ending.length))).map (· ++ selector)
  | none => named? name

def isOfName (c : CodePoint) : Bool := c ≠ colon && !c.isSpace

/-- The name in the code that a text starts with, and the text behind it. A code is a name between
two colons without white space. -/
def code? : Text → Option (Text × Text)
  | .char ':' :: r =>
    match r.dropWhile isOfName with
    | .char ':' :: rest => some (r.takeWhile isOfName, rest)
    | _ => none
  | _ => none

theorem eq_of_code? {t name rest : Text} (h : code? t = some (name, rest)) :
    t = colon :: (name ++ colon :: rest) := by
  unfold code? at h
  split at h
  · next r =>
    split at h
    · next rest' hrest =>
      cases h
      have hsplit := List.takeWhile_append_dropWhile (p := isOfName) (l := r)
      rw [hrest] at hsplit
      exact congrArg (colon :: ·) hsplit.symm
    · cases h
  · cases h

def replace (t : Text) : Text :=
  match t with
  | [] => []
  | c :: r =>
    match _ : code? (c :: r) with
    | some (name, rest) => (picture? name).getD (colon :: (name ++ [colon])) ++ replace rest
    | none => c :: replace r
termination_by t.length
decreasing_by
  · rw [eq_of_code? ‹code? (c :: r) = some (name, rest)›]
    simp only [List.length_cons, List.length_append]
    omega
  · exact Nat.lt_succ_self _

end PackageAudit.Display.Emoji
