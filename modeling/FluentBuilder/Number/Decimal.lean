import FluentBuilder.Number.Numeral

/-!
Decimal numbers that keep the digits they were written with, infinities and the two kinds of NaN. A
NaN may carry a number; zero stands for none.
-/

namespace FluentBuilder.Number

inductive Decimal
  | finite (negative : Bool) (coefficient : Nat) (exponent : Int)
  | infinite (negative : Bool)
  | nan (negative signaling : Bool) (payload : Nat)
  deriving DecidableEq, Inhabited

namespace Decimal

/-- Not a number, quiet or signaling. -/
def isNaN : Decimal → Bool
  | .nan .. => true
  | _ => false

def isZero : Decimal → Bool
  | .finite _ c _ => c == 0
  | _ => false

/-- Reads what `text` writes, and the other spellings of a decimal. -/
def ofText? (text : List Char) : Option Decimal :=
  let (negative, body) := splitSign text
  match lowerAscii body with
  | 'i' :: 'n' :: 'f' :: rest =>
    if rest.isEmpty || rest = "inity".toList then some (.infinite negative) else none
  | 'n' :: 'a' :: 'n' :: digits =>
    if digits.all isDigit then some (.nan negative false (natOfDigits digits)) else none
  | 's' :: 'n' :: 'a' :: 'n' :: digits =>
    if digits.all isDigit then some (.nan negative true (natOfDigits digits)) else none
  | _ => (Numeral.read? text).map fun n => .finite n.negative n.coefficient n.exponent

/-- Digits with a point in front of the last `-exponent` of them, or one digit before the point and
an exponent when the number is small or its exponent positive. -/
def pointed (coefficient : Nat) (exponent : Int) : List Char :=
  let digits := natDigits coefficient
  let left : Int := digits.length + exponent
  if exponent ≤ 0 ∧ -6 < left then
    if left ≤ 0 then '0' :: '.' :: (List.replicate (-left).toNat '0' ++ digits)
    else if exponent = 0 then digits
    else digits.take left.toNat ++ '.' :: digits.drop left.toNat
  else
    let shift := left - 1
    digits.take 1 ++ (if digits.length ≤ 1 then [] else '.' :: digits.drop 1) ++
      'E' :: (if shift < 0 then '-' else '+') :: natDigits shift.natAbs

/-- The text of a decimal: its digits as they are, with an exponent only where needed. -/
def text (d : Decimal) : String :=
  let signed (negative : Bool) (cs : List Char) := if negative then '-' :: cs else cs
  String.ofList <| match d with
    | .finite negative c e => signed negative (pointed c e)
    | .infinite negative => signed negative "Infinity".toList
    | .nan negative signaling payload =>
      signed negative ((if signaling then "sNaN" else "NaN").toList ++
        if payload = 0 then [] else natDigits payload)

end Decimal

end FluentBuilder.Number
