/-! Digits of naturals and integers: writing them, and reading a run of digits in a base. -/

namespace FluentBuilder.Number

/-- The decimal digits of a natural, without leading zeros. -/
def natDigits (n : Nat) : List Char := Nat.toDigits 10 n

/-- How many decimal digits a natural has; zero has one. -/
def digitCount (n : Nat) : Nat := (natDigits n).length

def intDigits (n : Int) : List Char :=
  if n < 0 then '-' :: natDigits n.natAbs else natDigits n.natAbs

def intText (n : Int) : String := String.ofList (intDigits n)

def natText (n : Nat) : String := String.ofList (natDigits n)

/-- The most decimal digits with which an integer is written or read. -/
def digitLimit : Nat := 4300

/-- The integer has more digits than are written. -/
def isLong (n : Int) : Bool := Nat.pow 10 digitLimit ≤ n.natAbs

/-- What is wrong with an integer that has more digits than are written or read; for one that is read
the count of its digits is told. -/
def longNumberMessage (digits : Option Nat) : String :=
  let count := match digits with
    | none => ""
    | some n => ": value has " ++ natText n ++ " digits"
  "Exceeds the limit (" ++ natText digitLimit ++ " digits) for integer string conversion" ++
    count ++ "; use sys.set_int_max_str_digits() to increase the limit"

/-- The value of a letter or digit as a digit, up to base 36. -/
def digitValue? (c : Char) : Option Nat :=
  if '0' ≤ c ∧ c ≤ '9' then some (c.toNat - 48)
  else if 'a' ≤ c ∧ c ≤ 'z' then some (c.toNat - 87)
  else if 'A' ≤ c ∧ c ≤ 'Z' then some (c.toNat - 55)
  else none

def digitOf? (base : Nat) (c : Char) : Option Nat :=
  (digitValue? c).bind fun d => if d < base then some d else none

/-- Appends digits to a number already read; a character that is no digit refuses the whole. -/
def readDigits? (base : Nat) (start : Nat) : List Char → Option Nat
  | [] => some start
  | c :: cs => (digitOf? base c).bind fun d => readDigits? base (start * base + d) cs

/-- The value of a non-empty run of digits. -/
def natOfDigits? (base : Nat) : List Char → Option Nat
  | [] => none
  | c :: cs => readDigits? base 0 (c :: cs)

/-- The value of a run of decimal digits that is known to be one. -/
def natOfDigits (cs : List Char) : Nat :=
  cs.foldl (fun n c => n * 10 + (c.toNat - 48)) 0

/-- A digit of the decimal system in ASCII. -/
def isDigit (c : Char) : Bool := '0' ≤ c && c ≤ '9'

/-- Drops single underscores between digits. Any other underscore refuses the text. -/
def joinGroups? (afterDigit : Bool) : List Char → Option (List Char)
  | [] => some []
  | c :: cs =>
    if c = '_' then
      match cs with
      | d :: _ => if afterDigit && d.isAlphanum then joinGroups? false cs else none
      | [] => none
    else (joinGroups? c.isAlphanum cs).map (c :: ·)

/-- A decimal numeral as read: its sign, its digits as a natural and the power of ten. -/
structure Numeral where
  negative : Bool
  coefficient : Nat
  exponent : Int

def splitSign : List Char → Bool × List Char
  | '-' :: cs => (true, cs)
  | '+' :: cs => (false, cs)
  | cs => (false, cs)

def readExponent? (cs : List Char) : Option Int :=
  let (negative, digits) := splitSign cs
  (natOfDigits? 10 digits).map fun n => if negative then -(n : Int) else n

/-- Reads a numeral: a sign, digits with at most one point and at least one digit, and an exponent
after a letter E. -/
def Numeral.read? (cs : List Char) : Option Numeral :=
  let (negative, body) := splitSign cs
  let whole := body.takeWhile isDigit
  let rest := body.dropWhile isDigit
  let (fraction, rest) := match rest with
    | '.' :: more => (more.takeWhile isDigit, more.dropWhile isDigit)
    | _ => ([], rest)
  if whole.isEmpty && fraction.isEmpty then none
  else
    let exponent? := match rest with
      | [] => some 0
      | c :: more => if c = 'e' ∨ c = 'E' then readExponent? more else none
    exponent?.map fun exponent =>
      { negative, coefficient := natOfDigits (whole ++ fraction),
        exponent := exponent - fraction.length }

/-- Reads an integer in a base: a sign, then digits that single underscores may group. -/
def readInt? (base : Nat) (cs : List Char) : Option Int :=
  let (negative, body) := splitSign cs
  ((joinGroups? false body).bind (natOfDigits? base)).map fun n =>
    if negative then -(n : Int) else n

/-- Lower case of the letters A to Z only. -/
def lowerAscii (cs : List Char) : List Char := cs.map Char.toLower

end FluentBuilder.Number
