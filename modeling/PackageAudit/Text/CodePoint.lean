namespace PackageAudit

/-- A code point is a character, or a surrogate numbered from `0xD800`. -/
inductive CodePoint where
  | char (c : Char)
  | surrogate (s : Fin 2048)
deriving DecidableEq, Inhabited

abbrev Text := List CodePoint

namespace CodePoint

instance : Coe Char CodePoint := ⟨.char⟩

def toNat : CodePoint → Nat
  | char c => c.toNat
  | surrogate s => 0xD800 + s

def ofNat (n : Nat) : CodePoint :=
  if h : 0xD800 ≤ n ∧ n < 0xE000 then surrogate ⟨n - 0xD800, by omega⟩ else char (Char.ofNat n)

def char? : CodePoint → Option Char
  | char c => some c
  | surrogate _ => none

def isChar (p : Char → Bool) : CodePoint → Bool
  | char c => p c
  | surrogate _ => false

end CodePoint

namespace Text

def ofString (s : String) : Text := s.toList.map .char

instance : Coe String Text := ⟨ofString⟩

def chars? : Text → Option (List Char) := List.mapM CodePoint.char?

def ofChars (cs : List Char) : Text := cs.map .char

def le : Text → Text → Bool
  | [], _ => true
  | _ :: _, [] => false
  | a :: s, b :: t => a.toNat < b.toNat || (a.toNat == b.toNat && le s t)

def splitOn (separator : CodePoint) : Text → List Text
  | [] => [[]]
  | c :: r =>
    if c = separator then [] :: splitOn separator r
    else match splitOn separator r with
      | [] => [[c]]
      | piece :: pieces => (c :: piece) :: pieces

def joinWith (separator : Text) : List Text → Text
  | [] => []
  | [t] => t
  | t :: ts => t ++ separator ++ joinWith separator ts

def ofNat (n : Nat) : Text := ofString (toString n)

end Text

end PackageAudit
