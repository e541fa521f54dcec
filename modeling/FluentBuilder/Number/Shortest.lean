import FluentBuilder.Number.Binary64

/-!
The shortest decimal that reads back as a given floating-point number, and its text. Of all decimals
with the fewest digits that lie in the interval of numbers rounding to the given one, the nearest is
taken.
-/

namespace FluentBuilder.Number

/-- The exponent `x` with `10 ^ x ≤ num / den < 10 ^ (x + 1)`. -/
def decimalExponent (num den : Nat) : Int :=
  if den ≤ num then (digitCount (num / den) : Int) - 1
  else -(digitCount ((den - 1) / num) : Int)

/-- The interval of numbers that round to a mantissa and an exponent, in units of two powers below
the mantissa: low end, value, high end, and whether the ends belong to it. -/
structure RoundingInterval where
  low : Nat
  value : Nat
  high : Nat
  closed : Bool

/-- Below the first mantissa of a binade the numbers lie twice as dense. -/
def roundingInterval (mantissa : Nat) (exponent : Int) : RoundingInterval where
  low := if mantissa = Nat.pow 2 52 ∧ -1074 < exponent then 4 * mantissa - 1 else 4 * mantissa - 2
  value := 4 * mantissa
  high := 4 * mantissa + 2
  closed := mantissa % 2 == 0

/-- The decimal `digits · 10 ^ place` lies in the interval, whose unit is `2 ^ (exponent - 2)`. -/
def RoundingInterval.holds (interval : RoundingInterval) (exponent : Int) (digits : Nat)
    (place : Int) : Bool :=
  let (n, d) := scaleByTen digits 1 (-place)
  let (n, d) := scaleByTwo n d (exponent - 2)
  if interval.closed then interval.low * d ≤ n && n ≤ interval.high * d
  else interval.low * d < n && n < interval.high * d

/-- Looks for a decimal of the interval on ever finer grids: `place` is the power of ten of the
current grid and `steps` the number of finer ones. -/
def shortestFrom (interval : RoundingInterval) (exponent place : Int) : Nat → Nat × Int
  | 0 =>
    let (n, d) := scaleByTwo interval.value 1 (-(exponent - 2))
    let (n, d) := scaleByTen n d place
    (roundHalfEven n d, place)
  | steps + 1 =>
    let (n, d) := scaleByTwo interval.value 1 (-(exponent - 2))
    let (n, d) := scaleByTen n d place
    let below := n / d
    let hitBelow := interval.holds exponent below place
    let hitAbove := interval.holds exponent (below + 1) place
    if hitBelow && hitAbove then (roundHalfEven n d, place)
    else if hitBelow then (below, place)
    else if hitAbove then (below + 1, place)
    else shortestFrom interval exponent (place - 1) steps

/-- Digits and power of ten of the shortest decimal that reads back as the positive number. -/
def shortest (mantissa : Nat) (exponent : Int) : Nat × Int :=
  let (n, d) := Binary64.ratio mantissa exponent
  shortestFrom (roundingInterval mantissa exponent) exponent (decimalExponent n d) 17

/-- The digits without zeros at the end, and the power of ten that they then have. -/
def dropTrailingZeros (digits : List Char) (place : Int) : List Char × Int :=
  let kept := (digits.reverse.dropWhile (· = '0')).reverse
  (kept, place + (digits.length - kept.length : Nat))

/-- Digits with a point: positional when the first digit's power of ten is from -4 to 15, otherwise
one digit before the point and an exponent of at least two digits. -/
def pointedDigits (digits : List Char) (place : Int) : List Char :=
  let point : Int := digits.length + place
  if -4 < point ∧ point ≤ 0 then
    '0' :: '.' :: (List.replicate (-point).toNat '0' ++ digits)
  else if 0 < point ∧ point ≤ 16 then
    let whole := digits.take point.toNat
    let rest := digits.drop point.toNat
    whole ++ List.replicate (point.toNat - digits.length) '0' ++ '.' ::
      (if rest.isEmpty then ['0'] else rest)
  else
    let exponent := point - 1
    let size := natDigits exponent.natAbs
    digits.take 1 ++ (if digits.length ≤ 1 then [] else '.' :: digits.drop 1) ++
      'e' :: (if exponent < 0 then '-' else '+') ::
      (if size.length < 2 then '0' :: size else size)

/-- The text of a floating-point number: the shortest digits that read back. -/
def Binary64.text : Binary64 → String
  | .nan => "nan"
  | .infinite negative => if negative then "-inf" else "inf"
  | .finite negative mantissa exponent =>
    let body :=
      if mantissa = 0 then ['0', '.', '0']
      else
        let (digits, place) := shortest mantissa exponent
        let (digits, place) := dropTrailingZeros (natDigits digits) place
        pointedDigits digits place
    String.ofList (if negative then '-' :: body else body)

end FluentBuilder.Number
