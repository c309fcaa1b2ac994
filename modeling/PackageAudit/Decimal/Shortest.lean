namespace PackageAudit.Decimal

/-- The binary number `mantissa · 2 ^ exponent`. The spacing below a power of two is half of that
above it. -/
structure Binary where
  mantissa : Nat
  exponent : Int
  isPower : Bool

inductive Shape where
  | notANumber
  | infinite (negative : Bool)
  | zero (negative : Bool)
  | finite (negative : Bool) (magnitude : Binary)

def Shape.ofFloat (x : Float) : Shape :=
  let bits := x.toBits.toNat
  let negative := bits >>> 63 = 1
  let biased : Nat := bits >>> 52 % 2048
  let fraction := bits % Nat.pow 2 52
  if biased = 2047 then if fraction = 0 then .infinite negative else .notANumber
  else if biased = 0 then
    if fraction = 0 then .zero negative else .finite negative ⟨fraction, -1074, false⟩
  else .finite negative ⟨fraction + Nat.pow 2 52, biased - 1075, fraction = 0 && 1 < biased⟩

/-- Digits before a power of ten: the number `coefficient · 10 ^ (exponent + 1 - count)`, where the
coefficient has `count` digits. -/
structure Digits where
  coefficient : Nat
  count : Nat
  exponent : Int

/-- The digits of a number that was rounded to `count` of them, which may carry into one more. -/
def Digits.ofRounded (n count : Nat) (exponent : Int) : Digits :=
  if n = Nat.pow 10 count then ⟨Nat.pow 10 (count - 1), count, exponent + 1⟩
  else ⟨n, count, exponent⟩

structure Ratio where
  num : Nat
  den : Nat

namespace Ratio

def scaled (r : Ratio) (base : Nat) (e : Int) : Ratio :=
  if 0 ≤ e then ⟨r.num * base.pow e.toNat, r.den⟩ else ⟨r.num, r.den * base.pow (-e).toNat⟩

def ofBinary (mantissa : Nat) (exponent : Int) : Ratio := scaled ⟨mantissa, 1⟩ 2 exponent

def digitCount (n : Nat) : Nat := (Nat.toDigits 10 n).length

def decimalExponent (r : Ratio) : Int :=
  let guess := (digitCount r.num : Int) - digitCount r.den
  let s := r.scaled 10 (-guess)
  if s.den ≤ s.num then guess else guess - 1

/-- The nearest whole number; a half goes to the even neighbour. -/
def round (r : Ratio) : Nat :=
  let below := r.num / r.den
  let twice := 2 * (r.num % r.den)
  if twice < r.den then below
  else if r.den < twice then below + 1
  else if below % 2 = 0 then below else below + 1

end Ratio

/-- Twice the mantissa and its bounds, in quarters of the spacing, so that halves are whole. -/
structure Interval where
  low : Nat
  value : Nat
  high : Nat
  exponent : Int
  closed : Bool

def Binary.interval (b : Binary) : Interval where
  low := 4 * b.mantissa - if b.isPower then 1 else 2
  value := 4 * b.mantissa
  high := 4 * b.mantissa + 2
  exponent := b.exponent - 2
  closed := b.mantissa % 2 = 0

def Interval.contains (i : Interval) (coefficient : Nat) (e : Int) : Bool :=
  let unit := Ratio.ofBinary 1 i.exponent
  let c := Ratio.scaled ⟨coefficient, 1⟩ 10 e
  let middle := c.num * unit.den
  let low := i.low * unit.num * c.den
  let high := i.high * unit.num * c.den
  if i.closed then low ≤ middle && middle ≤ high else low < middle && middle < high

/-- The number's neighbour with `count` digits that reads back, the nearer one if both do. -/
def Interval.ofCount? (i : Interval) (r : Ratio) (exponent : Int) (count : Nat) : Option Digits :=
  let e := exponent + 1 - count
  let s := r.scaled 10 (-e)
  let below := s.num / s.den
  let nearest := s.round
  let other := if nearest = below then below + 1 else below
  if i.contains nearest e then some (.ofRounded nearest count exponent)
  else if i.contains other e then some (.ofRounded other count exponent)
  else none

/-- The fewest digits that read back as the number. -/
def Binary.shortest (b : Binary) : Digits :=
  let i := b.interval
  let r := Ratio.ofBinary b.mantissa b.exponent
  let exponent := r.decimalExponent
  ((List.range 17).findSome? fun n ↦ i.ofCount? r exponent (n + 1)).getD
    ⟨(r.scaled 10 (16 - exponent)).round, 17, exponent⟩

def Binary.rounded (b : Binary) (count : Nat) : Digits :=
  let r := Ratio.ofBinary b.mantissa b.exponent
  let exponent := r.decimalExponent
  .ofRounded (r.scaled 10 (count - 1 - exponent)).round count exponent

def Digits.trimmed (d : Digits) : Digits :=
  let zeros := ((Nat.toDigits 10 d.coefficient).reverse.takeWhile (· = '0')).length
  if d.coefficient = 0 then d else ⟨d.coefficient / Nat.pow 10 zeros, d.count - zeros, d.exponent⟩

end PackageAudit.Decimal
