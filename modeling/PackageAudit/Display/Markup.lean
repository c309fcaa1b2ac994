import PackageAudit.Breakdown
import PackageAudit.Display.Emoji

namespace PackageAudit.Display

/-- A tag in brackets opens a style, and one with a slash closes the style named, or the last one
opened. An odd count of backslashes in front of it makes it plain text. -/
structure Tag where
  escapes : Nat
  inside : Text
deriving DecidableEq

/-- A text cut at its tags: what stands in front of the first one, and each with what stands behind
it. -/
structure Marked where
  front : Text
  tags : List (Tag × Text)
deriving DecidableEq

namespace Tag

def bracket : CodePoint := .char '['

def closingBracket : CodePoint := .char ']'

def backslash : CodePoint := .char '\\'

def isStart : CodePoint → Bool := CodePoint.isChar fun c ↦
  ('a' ≤ c && c ≤ 'z') || c = '#' || c = '/' || c = '@'

def isOfInside (c : CodePoint) : Bool := c ≠ bracket && c ≠ closingBracket

def bare? : Text → Option (Text × Text)
  | .char '[' :: c :: r =>
    if isStart c then
      match r.dropWhile isOfInside with
      | .char ']' :: rest => some (c :: r.takeWhile isOfInside, rest)
      | _ => none
    else none
  | _ => none

theorem eq_of_bare? {t inside rest : Text} (h : bare? t = some (inside, rest)) :
    t = bracket :: (inside ++ closingBracket :: rest) := by
  unfold bare? at h
  split at h
  · next c r =>
    split at h
    · split at h
      · next rest' hrest =>
        cases h
        have hsplit := List.takeWhile_append_dropWhile (p := isOfInside) (l := r)
        rw [hrest] at hsplit
        exact congrArg (bracket :: c :: ·) hsplit.symm
      · cases h
    · cases h
  · cases h

def backslashes (n : Nat) : Text := List.replicate n backslash

def source (m : Tag) : Text := backslashes m.escapes ++ bracket :: (m.inside ++ [closingBracket])

/-- What is left of a tag: half of the backslashes, and behind an odd count of them its text. -/
def kept (m : Tag) : Text :=
  backslashes (m.escapes / 2) ++
    if m.escapes % 2 = 0 then [] else bracket :: (m.inside ++ [closingBracket])

def first? : Text → Option (Tag × Text)
  | [] => none
  | c :: r =>
    if c = backslash then (first? r).map fun (m, rest) ↦ (⟨m.escapes + 1, m.inside⟩, rest)
    else (bare? (c :: r)).map fun (inside, rest) ↦ (⟨0, inside⟩, rest)

theorem eq_of_first? {t rest : Text} {m : Tag} (h : first? t = some (m, rest)) :
    t = m.source ++ rest := by
  induction t generalizing m with
  | nil => cases h
  | cons c r ih =>
    rw [first?] at h
    split at h
    · next hc =>
      obtain ⟨⟨m', rest'⟩, hm, heq⟩ := Option.map_eq_some_iff.mp h
      cases heq
      rw [ih hm, hc]
      rfl
    · obtain ⟨⟨inside, rest'⟩, hbare, heq⟩ := Option.map_eq_some_iff.mp h
      cases heq
      rw [eq_of_bare? hbare]
      simp [source, backslashes]

end Tag

namespace Marked

def scan (t : Text) : Marked :=
  match t with
  | [] => ⟨[], []⟩
  | c :: r =>
    match _ : Tag.first? (c :: r) with
    | some (m, rest) =>
      let behind := scan rest
      ⟨[], (m, behind.front) :: behind.tags⟩
    | none =>
      let behind := scan r
      ⟨c :: behind.front, behind.tags⟩
termination_by t.length
decreasing_by
  · rw [Tag.eq_of_first? ‹Tag.first? (c :: r) = some (m, rest)›, Tag.source]
    simp only [List.length_append, List.length_cons]
    omega
  · exact Nat.lt_succ_self _

def unescape : Text → Text
  | .char '\\' :: .char '[' :: r => Tag.bracket :: unescape r
  | c :: r => c :: unescape r
  | [] => []

def pieces (m : Marked) : List Text :=
  unescape m.front :: m.tags.flatMap fun e ↦ [e.1.kept, unescape e.2]

end Marked

namespace Markup

def attributes : List (String × String) :=
  [("bold", "b"), ("dim", "d"), ("italic", "i"), ("underline", "u"), ("blink", "blink"),
   ("blink2", "blink2"), ("reverse", "r"), ("conceal", "c"), ("strike", "s"),
   ("underline2", "uu"), ("frame", "frame"), ("encircle", "encircle"), ("overline", "o")]

def attribute? (word : Text) : Option String :=
  (attributes.find? fun a ↦ word = Text.ofString a.1 || word = Text.ofString a.2).map (·.1)

/-- The name under which a style is opened and closed: a row of attributes in their order, else the
words as they stand, in small letters. Colours and links among the words are not put in order. -/
def styleName (t : Text) : Text :=
  let name := Text.lower (Text.trim t)
  match (Text.words name).mapM attribute? with
  | some [] => "none"
  | some known =>
    Text.joinWith " " (((attributes.map (·.1)).filter known.contains).map Text.ofString)
  | none => name

def close (name : Text) : List Text → Except Breakdown (List Text)
  | [] => .error .malformedMarkup
  | s :: styles =>
    if name = [] || s = styleName name then .ok styles else return s :: (← close name styles)

/-- The styles that are open behind a tag, unless it is plain text. Its name ends where parameters
begin, and these are not read, not even those of a handler. -/
def stylesBehind (styles : List Text) (m : Tag) : Except Breakdown (List Text) :=
  if m.escapes % 2 = 0 then
    match m.inside.takeWhile (· ≠ CodePoint.char '=') with
    | .char '/' :: name => close (Text.trim name) styles
    | name => .ok (styleName name :: styles)
  else .ok styles

def isControl (c : CodePoint) : Bool :=
  let n := c.toNat
  n = 7 || n = 8 || (11 ≤ n && n ≤ 13)

def withoutControls (t : Text) : Text := t.filter (!isControl ·)

/-- The plain text of a text with tags. Codes are known within one piece of it. -/
def plain (t : Text) : Except Breakdown Text := do
  let m := Marked.scan t
  let _ ← (m.tags.map (·.1)).foldlM stylesBehind []
  return withoutControls (m.pieces.flatMap Emoji.replace)

end Markup

end PackageAudit.Display
