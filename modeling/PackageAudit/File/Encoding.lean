import PackageAudit.Text.CodePoint

namespace PackageAudit.Encoding

/-- A character of which some octets have been read: the value so far, how many octets are owed, and
the bounds of the next one. -/
structure Pending where
  value : Nat
  owed : Nat
  least : Nat
  most : Nat

def Pending.ofLead? (b : Nat) : Option Pending :=
  if b < 0xC2 then none
  else if b < 0xE0 then some ⟨b - 0xC0, 1, 0x80, 0xBF⟩
  else if b < 0xF0 then
    some ⟨b - 0xE0, 2, if b = 0xE0 then 0xA0 else 0x80, if b = 0xED then 0x9F else 0xBF⟩
  else if b < 0xF5 then
    some ⟨b - 0xF0, 3, if b = 0xF0 then 0x90 else 0x80, if b = 0xF4 then 0x8F else 0xBF⟩
  else none

/-- The characters of the octets, with `none` for each fault: where octets stand for no character,
the longest beginning of one is one fault. -/
def decodeFrom : Option Pending → List UInt8 → List (Option Char)
  | none, [] => []
  | some _, [] => [none]
  | pending, b :: r =>
    let n := b.toNat
    let fresh := fun (_ : Unit) ↦
      if n < 0x80 then some (Char.ofNat n) :: decodeFrom none r
      else match Pending.ofLead? n with
        | some p => decodeFrom (some p) r
        | none => none :: decodeFrom none r
    match pending with
    | none => fresh ()
    | some p =>
      if p.least ≤ n && n ≤ p.most then
        let value := 64 * p.value + (n - 0x80)
        if p.owed = 1 then some (Char.ofNat value) :: decodeFrom none r
        else decodeFrom (some ⟨value, p.owed - 1, 0x80, 0xBF⟩) r
      else none :: fresh ()

def replacement : Char := '\ufffd'

def decodeReplacing (bytes : List UInt8) : List Char :=
  (decodeFrom none bytes).map (·.getD replacement)

def decode? (bytes : List UInt8) : Option (List Char) := (decodeFrom none bytes).mapM id

def encode (cs : List Char) : List UInt8 := cs.flatMap String.utf8EncodeChar

def unifyLines : List Char → List Char
  | [] => []
  | '\r' :: '\n' :: r => '\n' :: unifyLines r
  | '\r' :: r => '\n' :: unifyLines r
  | c :: r => c :: unifyLines r

end PackageAudit.Encoding
