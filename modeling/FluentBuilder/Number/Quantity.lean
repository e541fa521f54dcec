import FluentBuilder.Number.Binary64
import FluentBuilder.Number.Decimal

/-!
Exact order of numbers of all kinds. A finite number is an integer over a natural times a power of
ten; two of them are compared by their size in digits first, so that no large power is computed for
numbers far apart.
-/

namespace FluentBuilder.Number

/-- An exact rational `numerator / denominator · 10 ^ exponent`. -/
structure Quantity where
  numerator : Int
  denominator : Nat
  exponent : Int
  denominator_pos : 0 < denominator := by decide

inductive Extended
  | below
  | finite (q : Quantity)
  | above

/-- Compares `a · 10 ^ e` with `b · 10 ^ f`. -/
def compareScaled (a : Nat) (e : Int) (b : Nat) (f : Int) : Ordering :=
  if a = 0 ∨ b = 0 then compare a b
  else if e + digitCount a < f + digitCount b then .lt
  else if f + digitCount b < e + digitCount a then .gt
  else
    let low := min e f
    compare (a * Nat.pow 10 (e - low).toNat) (b * Nat.pow 10 (f - low).toNat)

/-- Compares two signed numbers by their signs, then by size. -/
def compareSigned (a : Int) (e : Int) (b : Int) (f : Int) : Ordering :=
  if a < 0 then
    if b < 0 then compareScaled b.natAbs f a.natAbs e else .lt
  else if b < 0 then .gt
  else compareScaled a.natAbs e b.natAbs f

def Quantity.compare (p q : Quantity) : Ordering :=
  compareSigned (p.numerator * q.denominator) p.exponent (q.numerator * p.denominator) q.exponent

def Extended.compare : Extended → Extended → Ordering
  | .below, .below => .eq
  | .below, _ => .lt
  | _, .below => .gt
  | .above, .above => .eq
  | .above, _ => .gt
  | _, .above => .lt
  | .finite p, .finite q => p.compare q

def signedNat (negative : Bool) (n : Nat) : Int := if negative then -(n : Int) else n

def Quantity.ofInt (n : Int) : Quantity := { numerator := n, denominator := 1, exponent := 0 }

def Quantity.ofRat (q : Rat) : Quantity where
  numerator := q.num
  denominator := q.den
  exponent := 0
  denominator_pos := Nat.pos_of_ne_zero q.den_nz

/-- A floating-point number as an extended quantity; a NaN has no place in the order. -/
def Binary64.extended? : Binary64 → Option Extended
  | .finite s m e =>
    some (.finite
      { numerator := signedNat s (m * Nat.pow 2 e.toNat)
        denominator := Nat.pow 2 (-e).toNat
        exponent := 0
        denominator_pos := Nat.pow_pos (by decide) })
  | .infinite s => some (if s then .below else .above)
  | .nan => none

def Decimal.extended? : Decimal → Option Extended
  | .finite s c e =>
    some (.finite { numerator := signedNat s c, denominator := 1, exponent := e })
  | .infinite s => some (if s then .below else .above)
  | .nan .. => none

end FluentBuilder.Number
