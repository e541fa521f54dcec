import FluentBuilder.Number.Binary64
import FluentBuilder.Number.Decimal
import FluentBuilder.Text.Alphanumeric
import FluentBuilder.Text.Blank
import FluentBuilder.Text.Literal

/-!
Numbers as people write them: blanks around the number are skipped, and digits of all scripts count.
-/

namespace FluentBuilder.Number

/-- A blank of ASCII that may stand around a number. -/
def isNumeralBlank (c : Char) : Bool := c = ' ' || ('\t' ≤ c && c ≤ '\r')

/-- The ASCII character that a character stands for in a number: a digit for a digit of any script,
a space for a blank beyond ASCII. -/
def numeralChar (c : Char) : Char :=
  if c.toNat < 0x7F then c
  else if Text.isBlank c then ' '
  else match Text.decimalDigitValue? c.toNat with
    | some d => Char.ofNat (48 + d)
    | none => c

/-- The characters of a number, without the blanks around it. -/
def numeralChars (cs : List Char) : List Char :=
  let trimmed := (cs.map numeralChar).dropWhile isNumeralBlank
  (trimmed.reverse.dropWhile isNumeralBlank).reverse

inductive IntegerFault
  | malformed
  | long (digits : Nat)
  deriving DecidableEq

/-- Reads a decimal integer. Its digits are counted before what follows them is looked at. -/
def readInteger (cs : List Char) : Except IntegerFault Int :=
  let (negative, body) := splitSign (numeralChars cs)
  let run := body.takeWhile fun c => isDigit c || c = '_'
  match joinGroups? false run with
  | none => .error .malformed
  | some digits =>
    if digitLimit < digits.length then .error (.long digits.length)
    else if digits.isEmpty || run.length < body.length then .error .malformed
    else
      let size : Int := natOfDigits digits
      .ok (if negative then -size else size)

/-- The text of a value that is shown, cut where it grows too long. -/
def shownText (s : String) : String := String.ofList (s.toList.take 200)

def notIntegerMessage (base : Nat) (text : String) : String :=
  "invalid literal for int() with base " ++ natText base ++ ": " ++ shownText (Text.quoted text)

def notFloatMessage (text : String) : String :=
  "could not convert string to float: " ++ Text.quoted text

/-- Drops underscores between two digits. Any other underscore refuses the text. -/
def joinDigits? (afterDigit : Bool) : List Char → Option (List Char)
  | [] => some []
  | '_' :: d :: cs => if afterDigit && isDigit d then joinDigits? false (d :: cs) else none
  | ['_'] => none
  | c :: cs => (joinDigits? (isDigit c) cs).map (c :: ·)

/-- Reads a decimal numeral, an infinity or a NaN as the nearest floating-point number. -/
def Binary64.ofText? (cs : List Char) : Option Binary64 :=
  let body := numeralChars cs
  let (negative, size) := splitSign body
  let word := String.ofList (lowerAscii size)
  if word = "inf" ∨ word = "infinity" then some (.infinite negative)
  else if word = "nan" then some .nan
  else ((joinDigits? false body).bind Numeral.read?).map fun n =>
    .ofDecimal n.negative n.coefficient n.exponent

inductive DecimalFault
  | malformed
  | outOfRange

/-- The greatest exponent of the first digit of a decimal. -/
def greatestExponent : Int := 999999999999999999

/-- The least exponent of the last digit of a decimal. -/
def leastExponent : Int := -1999999999999999997

def Decimal.isInRange : Decimal → Bool
  | .finite _ coefficient exponent =>
    leastExponent ≤ exponent && exponent + (digitCount coefficient - 1 : Nat) ≤ greatestExponent
  | _ => true

/-- Reads a decimal. Underscores count for nothing, and digits of all scripts count. -/
def Decimal.read (cs : List Char) : Except DecimalFault Decimal :=
  let body := ((Text.trim cs).filter (· ≠ '_')).map numeralChar
  match Decimal.ofText? body with
  | none => .error .malformed
  | some d => if d.isInRange then .ok d else .error .outOfRange

end FluentBuilder.Number
