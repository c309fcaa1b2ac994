import Mathlib.Data.Int.Notation
import Mathlib.Data.Nat.Notation
import PackageAudit.Json.Parser

namespace PackageAudit.Json

section Strings

/-- A high surrogate is joined with a low one whose escape stands directly behind its own. -/
def Joins (high : ℕ) (behind : Text) (c : CodePoint) (rest : Text) : Prop :=
  (0xD800 ≤ high ∧ high < 0xDC00) ∧ ∃ r low, behind = .char '\\' :: .char 'u' :: r ∧
    fourHex? r = some low ∧ joinPair? high low = some c ∧ rest = r.drop 4

/-- What is spelled up to a closing quote. -/
inductive Spells : Text → Text → Text → Prop
  | close {rest : Text} : Spells (.char '\x22' :: rest) [] rest
  | self {c : CodePoint} {r t rest : Text} (hquote : c ≠ .char '\x22') (hbackslash : c ≠ .char '\\')
      (hc : 32 ≤ c.toNat) (h : Spells r t rest) : Spells (c :: r) (c :: t) rest
  | simple {e c : CodePoint} {r t rest : Text} (hc : simpleEscape? e = some c) (h : Spells r t rest) :
      Spells (.char '\\' :: e :: r) (c :: t) rest
  | unit {n : ℕ} {r t rest : Text} (hn : fourHex? r = some n)
      (hsingle : ∀ c r', ¬ Joins n (r.drop 4) c r') (h : Spells (r.drop 4) t rest) :
      Spells (.char '\\' :: .char 'u' :: r) (CodePoint.ofNat n :: t) rest
  | pair {n : ℕ} {c : CodePoint} {r r' t rest : Text} (hn : fourHex? r = some n)
      (hc : Joins n (r.drop 4) c r') (h : Spells r' t rest) :
      Spells (.char '\\' :: .char 'u' :: r) (c :: t) rest

end Strings

section Numbers

def digit? (c : CodePoint) : Option ℕ := Decimal.Spelling.strict.digit? c

def StartsDigit (s : Text) : Prop := ∃ c ∈ s.head?, digit? c ≠ none

inductive Digits : Text → List ℕ → Text → Prop
  | stop {rest : Text} (h : ¬ StartsDigit rest) : Digits rest [] rest
  | digit {c : CodePoint} {d : ℕ} {r rest : Text} {ds : List ℕ} (hc : digit? c = some d)
      (h : Digits r ds rest) : Digits (c :: r) (d :: ds) rest

inductive Minus : Text → Bool → Text → Prop
  | minus {rest : Text} : Minus (.char '-' :: rest) true rest
  | none {rest : Text} (h : rest.head? ≠ some (.char '-')) : Minus rest false rest

/-- The digits before the point. Nothing follows a zero in front. -/
inductive Whole : Text → List ℕ → Text → Prop
  | zero {rest : Text} : Whole (.char '0' :: rest) [0] rest
  | digits {s rest : Text} {ds : List ℕ} (hs : s.head? ≠ some (.char '0')) (hstart : StartsDigit s)
      (h : Digits s ds rest) : Whole s ds rest

/-- The digits behind a point. A point without digits is none. -/
inductive Fraction : Text → List ℕ → Text → Prop
  | digits {s rest : Text} {ds : List ℕ} (hstart : StartsDigit s) (h : Digits s ds rest) :
      Fraction (.char '.' :: s) ds rest
  | none {rest : Text} (h : ∀ s, rest = .char '.' :: s → ¬ StartsDigit s) : Fraction rest [] rest

inductive Sign : Text → Bool → Text → Prop
  | minus {rest : Text} : Sign (.char '-' :: rest) true rest
  | plus {rest : Text} : Sign (.char '+' :: rest) false rest
  | none {rest : Text} (hminus : rest.head? ≠ some (.char '-')) (hplus : rest.head? ≠ some (.char '+')) :
      Sign rest false rest

inductive Exponent : Text → Option ℤ → Text → Prop
  | digits {mark : CodePoint} {s s' rest : Text} {negative : Bool} {ds : List ℕ}
      (hmark : mark = .char 'e' ∨ mark = .char 'E') (hsign : Sign s negative s')
      (hstart : StartsDigit s') (h : Digits s' ds rest) :
      Exponent (mark :: s)
        (some (if negative then -(Decimal.ofDigits ds : ℤ) else Decimal.ofDigits ds)) rest
  | none {rest : Text} (h : ∀ mark s negative s', rest = mark :: s →
      mark = .char 'e' ∨ mark = .char 'E' → Sign s negative s' → ¬ StartsDigit s') :
      Exponent rest none rest

def Numeral.Starts (n : Numeral) (s : Text) : Prop :=
  ∃ body behind behind', Minus s n.negative body ∧ Whole body n.whole behind ∧
    Fraction behind n.fraction behind' ∧ Exponent behind' n.exponent n.rest

def Numeral.IsLong (n : Numeral) : Prop :=
  n.fraction = [] ∧ n.exponent = none ∧ digitLimit < n.whole.length

end Numbers

section Values

def behindGap (t : Text) : Text := t.dropWhile isGap

def words : List (String × Value) :=
  [("null", .null), ("true", .bool true), ("false", .bool false), ("NaN", .float Decimal.notANumber),
   ("Infinity", .float Decimal.infinity), ("-Infinity", .float (-Decimal.infinity))]

def IsKey (s key rest : Text) : Prop :=
  ∃ r behind behind', s = .char '\x22' :: r ∧ Spells r key behind ∧
    behindGap behind = .char ':' :: behind' ∧ rest = behindGap behind'

/-- What a stretch of text denotes: a value, or the items or members up to a closing bracket. -/
inductive Content where
  | value (v : Value)
  | items (vs : List Value)
  | members (ms : List (Text × Value))

/-- What the text denotes inside fewer than `depth` brackets, and what is left behind it. -/
inductive Denotes : (depth : ℕ) → Content → Text → Text → Prop
  | word {depth : ℕ} {w : String} {v : Value} {rest : Text} (hw : (w, v) ∈ words) :
      Denotes depth (.value v) (Text.ofString w ++ rest) rest
  | number {depth : ℕ} {n : Numeral} {v : Value} {s : Text} (hn : n.Starts s) (hv : n.value = .ok v) :
      Denotes depth (.value v) s n.rest
  | string {depth : ℕ} {s t rest : Text} (h : Spells s t rest) :
      Denotes depth (.value (.string t)) (.char '\x22' :: s) rest
  | emptyArray {depth : ℕ} {s rest : Text} (h : behindGap s = .char ']' :: rest) :
      Denotes (depth + 1) (.value (.array [])) (.char '[' :: s) rest
  | array {depth : ℕ} {vs : List Value} {s rest : Text}
      (h : Denotes depth (.items vs) (behindGap s) rest) :
      Denotes (depth + 1) (.value (.array vs)) (.char '[' :: s) rest
  | emptyObject {depth : ℕ} {s rest : Text} (h : behindGap s = .char '\x7d' :: rest) :
      Denotes (depth + 1) (.value (.object [])) (.char '\x7b' :: s) rest
  | object {depth : ℕ} {ms : List (Text × Value)} {s rest : Text}
      (h : Denotes depth (.members ms) (behindGap s) rest) :
      Denotes (depth + 1) (.value (.object (Keyed.ofList ms))) (.char '\x7b' :: s) rest
  | lastItem {depth : ℕ} {v : Value} {s behind rest : Text} (hv : Denotes depth (.value v) s behind)
      (hclose : behindGap behind = .char ']' :: rest) : Denotes depth (.items [v]) s rest
  | item {depth : ℕ} {v : Value} {vs : List Value} {s behind behind' rest : Text}
      (hv : Denotes depth (.value v) s behind) (hcomma : behindGap behind = .char ',' :: behind')
      (hvs : Denotes depth (.items vs) (behindGap behind') rest) :
      Denotes depth (.items (v :: vs)) s rest
  | lastMember {depth : ℕ} {v : Value} {s s' key behind rest : Text} (hkey : IsKey s key s')
      (hv : Denotes depth (.value v) s' behind) (hclose : behindGap behind = .char '\x7d' :: rest) :
      Denotes depth (.members [(key, v)]) s rest
  | member {depth : ℕ} {v : Value} {ms : List (Text × Value)} {s s' key behind behind' rest : Text}
      (hkey : IsKey s key s') (hv : Denotes depth (.value v) s' behind)
      (hcomma : behindGap behind = .char ',' :: behind')
      (hms : Denotes depth (.members ms) (behindGap behind') rest) :
      Denotes depth (.members ((key, v) :: ms)) s rest

inductive Part where
  | value
  | items
  | members

/-- Behind nothing but what can be read inside fewer than `depth` brackets stands a bracket too
many, or an integer with too many digits. -/
inductive Exceeds : (depth : ℕ) → Part → Text → Prop
  | bracket {c : CodePoint} {s : Text} (hc : c = .char '[' ∨ c = .char '\x7b') :
      Exceeds 0 .value (c :: s)
  | integer {depth : ℕ} {n : Numeral} {s : Text} (hn : n.Starts s) (hlong : n.IsLong) :
      Exceeds depth .value s
  | array {depth : ℕ} {s : Text} (h : Exceeds depth .items (behindGap s)) :
      Exceeds (depth + 1) .value (.char '[' :: s)
  | object {depth : ℕ} {s : Text} (h : Exceeds depth .members (behindGap s)) :
      Exceeds (depth + 1) .value (.char '\x7b' :: s)
  | item {depth : ℕ} {s : Text} (h : Exceeds depth .value s) : Exceeds depth .items s
  | laterItem {depth : ℕ} {v : Value} {s behind behind' : Text}
      (hv : Denotes depth (.value v) s behind) (hcomma : behindGap behind = .char ',' :: behind')
      (h : Exceeds depth .items (behindGap behind')) : Exceeds depth .items s
  | member {depth : ℕ} {s s' key : Text} (hkey : IsKey s key s') (h : Exceeds depth .value s') :
      Exceeds depth .members s
  | laterMember {depth : ℕ} {v : Value} {s s' key behind behind' : Text} (hkey : IsKey s key s')
      (hv : Denotes depth (.value v) s' behind) (hcomma : behindGap behind = .char ',' :: behind')
      (h : Exceeds depth .members (behindGap behind')) : Exceeds depth .members s

/-- The text goes beyond a limit before anything in it is out of order. -/
def Oversized (t : Text) : Prop := Exceeds depthLimit .value (behindGap t)

def Holds (t : Text) (v : Value) : Prop :=
  ∃ rest, Denotes depthLimit (.value v) (behindGap t) rest ∧ behindGap rest = []

end Values

end PackageAudit.Json
