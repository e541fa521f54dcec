/-! Hexadecimal text of fixed width. -/

namespace FluentBuilder.Text

def hexDigit (n : Nat) : Char := "0123456789abcdef".toList.getD n '0'

/-- The last `width` hexadecimal digits of a number. -/
def hexDigits : Nat → Nat → List Char
  | 0, _ => []
  | width + 1, n => hexDigits width (n / 16) ++ [hexDigit (n % 16)]

def upperHexDigits (width n : Nat) : List Char := (hexDigits width n).map Char.toUpper

end FluentBuilder.Text
