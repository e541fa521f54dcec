import FluentBuilder.Number.Numeral

/-! The text of fractions in lowest terms. -/

namespace FluentBuilder.Number

/-- Numerator and denominator with a stroke; a whole number stands alone. -/
def fractionText (q : Rat) : String :=
  if q.den = 1 then intText q.num else intText q.num ++ "/" ++ natText q.den

end FluentBuilder.Number
