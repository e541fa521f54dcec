/-! Rounding a quotient of naturals to the nearest natural. -/

namespace FluentBuilder.Number

/-- The natural nearest to `num / den`; a tie goes to the even one. -/
def roundHalfEven (num den : Nat) : Nat :=
  let quotient := num / den
  let rest := num % den
  if 2 * rest < den then quotient
  else if den < 2 * rest then quotient + 1
  else quotient + quotient % 2

/-- Numerator and denominator of `num / den · 2 ^ (-shift)`. -/
def scaleByTwo (num den : Nat) (shift : Int) : Nat × Nat :=
  if 0 ≤ shift then (num, den * Nat.pow 2 shift.toNat)
  else (num * Nat.pow 2 (-shift).toNat, den)

/-- Numerator and denominator of `num / den · 10 ^ (-shift)`. -/
def scaleByTen (num den : Nat) (shift : Int) : Nat × Nat :=
  if 0 ≤ shift then (num, den * Nat.pow 10 shift.toNat)
  else (num * Nat.pow 10 (-shift).toNat, den)

end FluentBuilder.Number
