import FluentBuilder.Number.Numeral
import FluentBuilder.Number.Rounding

/-!
Floating-point numbers of 64 bits, held exactly: a finite number is a sign, a mantissa below `2 ^
53` and an exponent of two. Every number is made by rounding an exact quotient to the nearest one.
-/

namespace FluentBuilder.Number

inductive Binary64
  | finite (negative : Bool) (mantissa : Nat) (exponent : Int)
  | infinite (negative : Bool)
  | nan
  deriving DecidableEq, Inhabited

namespace Binary64

def zero (negative : Bool) : Binary64 := .finite negative 0 (-1074)

/-- The number with a rounded mantissa: one that needs 54 bits moves into the exponent, and one
beyond the largest finite number becomes infinite. -/
def ofRounded (negative : Bool) (mantissa : Nat) (exponent : Int) : Binary64 :=
  let (m, e) :=
    if mantissa = Nat.pow 2 53 then (Nat.pow 2 52, exponent + 1) else (mantissa, exponent)
  if 971 < e then .infinite negative else .finite negative m e

/-- The exponent under which `num / den` is rounded: the least one at which the mantissa has at most
53 bits, but not less than that of the smallest number. -/
def ratioExponent (num den : Nat) : Int :=
  let low : Int := max (-1074) ((num.log2 : Int) - den.log2 - 53)
  let scaled := scaleByTwo num den low
  if scaled.2 * Nat.pow 2 53 ≤ scaled.1 then low + 1 else low

/-- The number nearest to `num / den`, ties to the even mantissa. -/
def ofRatio (negative : Bool) (num den : Nat) : Binary64 :=
  if num = 0 then zero negative else
    let scaled := scaleByTwo num den (ratioExponent num den)
    ofRounded negative (roundHalfEven scaled.1 scaled.2) (ratioExponent num den)

def ofInt (n : Int) : Binary64 := ofRatio (n < 0) n.natAbs 1

/-- The number nearest to `coefficient · 10 ^ exponent`. Far outside the range of the format the
power of ten is not computed. -/
def ofDecimal (negative : Bool) (coefficient : Nat) (exponent : Int) : Binary64 :=
  if coefficient = 0 then zero negative
  else if 400 < exponent + digitCount coefficient then .infinite negative
  else if exponent + digitCount coefficient < -400 then zero negative
  else
    let (n, d) := scaleByTen coefficient 1 (-exponent)
    ofRatio negative n d

/-- Numerator and denominator of the size of a finite number. -/
def ratio (mantissa : Nat) (exponent : Int) : Nat × Nat := scaleByTwo mantissa 1 (-exponent)

/-- The sum of two finite numbers, rounded; an infinite operand or a NaN decides the sum. -/
def add : Binary64 → Binary64 → Binary64
  | .nan, _ | _, .nan => .nan
  | .infinite s, .infinite t => if s = t then .infinite s else .nan
  | .infinite s, _ | _, .infinite s => .infinite s
  | .finite s m e, .finite t n f =>
    let low := min e f
    let signed (sign : Bool) (size : Nat) : Int := if sign then -(size : Int) else size
    let total := signed s (m * Nat.pow 2 (e - low).toNat) + signed t (n * Nat.pow 2 (f - low).toNat)
    if total = 0 then zero (s && t)
    else
      let (num, den) := ratio total.natAbs low
      ofRatio (total < 0) num den

def mul : Binary64 → Binary64 → Binary64
  | .nan, _ | _, .nan => .nan
  | .infinite s, .infinite t => .infinite (s != t)
  | .infinite s, .finite t m _ | .finite t m _, .infinite s =>
    if m = 0 then .nan else .infinite (s != t)
  | .finite s m e, .finite t n f =>
    let (num, den) := ratio (m * n) (e + f)
    ofRatio (s != t) num den

def neg : Binary64 → Binary64
  | .finite s m e => .finite (!s) m e
  | .infinite s => .infinite (!s)
  | .nan => .nan

def isNaN : Binary64 → Bool
  | .nan => true
  | _ => false

def isZero : Binary64 → Bool
  | .finite _ m _ => m == 0
  | _ => false

end Binary64

end FluentBuilder.Number
