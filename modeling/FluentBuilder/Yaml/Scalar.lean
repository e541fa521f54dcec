import FluentBuilder.Number.Reading
import FluentBuilder.Text.LetterCase
import FluentBuilder.Value.Basic
import FluentBuilder.Yaml.Flaw
import FluentBuilder.Yaml.Kind

/-!
The values of scalars. A scalar whose kind its spelling shows has a value; one whose kind comes from
a tag may be no value of that kind.
-/

namespace FluentBuilder.Yaml

open Number

/-- The number that the digits stand for in a base, given from the highest one on. -/
def sexagesimal (parts : List Int) : Int := parts.foldl (fun n digit => n * 60 + digit) 0

/-- An integer in a base; the digits may have the letter of the base in front of them. -/
def integerIn (base : Nat) (letter : Char) (cs : List Char) : Except ContentFault Int :=
  let (negative, digits) := splitSign (numeralChars cs)
  let bare := match digits with
    | '0' :: c :: rest => if c.toLower = letter then rest else digits
    | _ => digits
  match natOfDigits? base bare with
  | some n => .ok (if negative then -(n : Int) else n)
  | none => .error (.notInteger base (String.ofList cs))

def decimalInteger (cs : List Char) : Except ContentFault Int :=
  match Number.readInteger cs with
  | .ok n => .ok n
  | .error (.long digits) => .error (.longNumber digits)
  | .error .malformed => .error (.notInteger 10 (String.ofList cs))

def integerSize (cs : List Char) : Except ContentFault Int :=
  match cs with
  | [] => .error .emptyNumber
  | ['0'] => .ok 0
  | '0' :: 'b' :: digits => integerIn 2 'b' digits
  | '0' :: 'x' :: digits => integerIn 16 'x' digits
  | '0' :: _ => integerIn 8 'o' cs
  | _ =>
    if cs.contains ':' then ((colonParts cs).mapM decimalInteger).map sexagesimal
    else decimalInteger cs

def withoutUnderscores (cs : List Char) : List Char := cs.filter (· ≠ '_')

def integerOf (cs : List Char) : Except ContentFault Int :=
  let digits := withoutUnderscores cs
  if digits.isEmpty then .error .emptyNumber
  else
    let (negative, size) := splitSign digits
    (integerSize size).map fun n => if negative then -n else n

def decimalFloat (cs : List Char) : Except ContentFault Binary64 :=
  match Binary64.ofText? cs with
  | some x => .ok x
  | none => .error (.notFloat (String.ofList cs))

/-- The sum of parts, each worth sixty times the one before it. What a part is worth must be in the
range of floating-point numbers. -/
def sexagesimalSum (sum : Binary64) (worth : Nat) : List Binary64 → Except ContentFault Binary64
  | [] => .ok sum
  | x :: rest =>
    match Binary64.ofInt worth with
    | .infinite _ => .error .hugeBase
    | factor => sexagesimalSum (sum.add (x.mul factor)) (worth * 60) rest

/-- The word of a number without underscores, in lower case. -/
def numberWord (cs : List Char) : List Char := Text.lower (withoutUnderscores cs)

/-- The spelling of the one NaN of the format. -/
def isNaNWord (cs : List Char) : Bool := (splitSign (numberWord cs)).2 == ".nan".toList

def floatOf (cs : List Char) : Except ContentFault Binary64 :=
  let word := numberWord cs
  if word.isEmpty then .error .emptyNumber
  else
    let (negative, size) := splitSign word
    let signed (x : Binary64) : Binary64 := if negative then x.neg else x
    if size = ".inf".toList then .ok (.infinite negative)
    else if isNaNWord cs then .ok .nan
    else if size.contains ':' then do
      let parts ← (colonParts size).mapM decimalFloat
      return signed (← sexagesimalSum (Binary64.zero false) 1 parts.reverse)
    else (decimalFloat size).map signed

def readTruth (cs : List Char) : Except ContentFault Bool :=
  let word := String.ofList (Text.lower cs)
  if ["yes", "true", "on"].contains word then .ok true
  else if ["no", "false", "off"].contains word then .ok false
  else .error (.noTruthValue word)

/-- The value of a run of digits at the start, and the text behind the character after them. -/
def leadingNumber (cs : List Char) : Nat × List Char :=
  (natOfDigits (cs.takeWhile isDigit), (cs.dropWhile isDigit).drop 1)

/-- A fraction of a second in millionths; further digits are cut off. -/
def microseconds (digits : List Char) : Nat :=
  let kept := digits.take 6
  natOfDigits kept * Nat.pow 10 (6 - kept.length)

/-- The lead over universal time at the end of a time, in seconds. -/
def zoneOf (cs : List Char) : Except ContentFault (Option Int) :=
  match cs.dropWhile isBlankChar with
  | [] => .ok none
  | 'Z' :: _ => .ok (some 0)
  | sign :: rest =>
    let (hours, rest) := leadingNumber rest
    let size : Int := hours * 3600 + (leadingNumber rest).1 * 60
    let seconds := if sign = '-' then -size else size
    if -86400 < seconds ∧ seconds < 86400 then .ok (some seconds)
    else .error (.moment (.offset seconds))

def momentOf (year month day : Nat) (time : List Char) : Except ContentFault Value := do
  let (hour, time) := leadingNumber time
  let (minute, time) := leadingNumber time
  let second := natOfDigits (time.takeWhile isDigit)
  let rest := time.dropWhile isDigit
  let (fraction, zone) := match rest with
    | '.' :: more => (more.takeWhile isDigit, more.dropWhile isDigit)
    | _ => ([], rest)
  let offset ← zoneOf zone
  match Moment.make year month day hour minute second (microseconds fraction) offset with
  | .ok moment => return .moment moment
  | .error e => throw (.moment e)

/-- The value of a date, or of a date with a time; a line feed may end it. -/
def readTimestamp (text : List Char) : Except ContentFault Value :=
  let cs := withoutLineEnd text
  let (year, rest) := leadingNumber cs
  let (month, rest) := leadingNumber rest
  let day := natOfDigits (rest.takeWhile isDigit)
  let time := rest.dropWhile isDigit
  if dropDate? 1 cs = some [] then
    match Date.make year month day with
    | .ok date => .ok (.date date)
    | .error e => .error (.moment e)
  else if (dropDate? 1 cs).any isTimeSpelling then
    momentOf year month day (time.dropWhile fun c => !isDigit c)
  else .error .notMoment

def sextets : List Char :=
  "ABCDEFGHIJKLMNOPQRSTUVWXYZabcdefghijklmnopqrstuvwxyz0123456789+/".toList

/-- Reads the six-bit groups of a text up to its padding, four of them to three bytes. The group
that is not complete is given as its bits and their number. Other characters are skipped. -/
def sextetBytes (bits count pads : Nat) : List Char → Option (List UInt8)
  | [] => if count = 0 then some [] else none
  | c :: cs =>
    if c = '=' then
      if 2 ≤ count ∧ 4 ≤ count + pads + 1 then some []
      else sextetBytes bits count (if 2 ≤ count then pads + 1 else pads) cs
    else match sextets.idxOf? c with
      | none => sextetBytes bits count pads cs
      | some sextet =>
        let bits := bits * 64 + sextet
        match count with
        | 0 => sextetBytes sextet 1 0 cs
        | 1 => (sextetBytes (bits % 16) 2 0 cs).map ((bits / 16).toUInt8 :: ·)
        | 2 => (sextetBytes (bits % 4) 3 0 cs).map ((bits / 4).toUInt8 :: ·)
        | _ => (sextetBytes 0 0 0 cs).map (bits.toUInt8 :: ·)

/-- The bytes that a text stands for; the text must be ASCII. -/
def readBinary (cs : List Char) : Except Flaw (List UInt8) :=
  if cs.all (·.toNat < 128) then
    match sextetBytes 0 0 0 cs with
    | some bytes => .ok bytes
    | none => .error .malformed
  else .error .malformed

def faultIn {α : Type} : Except ContentFault α → Except Flaw α := Except.mapError .content

/-- The value of a scalar of a kind; collections and keys with a meaning of their own have none. -/
def readScalar (kind : Kind) (cs : List Char) : Except Flaw Value :=
  match kind with
  | .null => .ok .null
  | .bool => (faultIn (readTruth cs)).map .bool
  | .int => (faultIn (integerOf cs)).map .int
  | .float => (faultIn (floatOf cs)).map .float
  | .binary => (readBinary cs).map .bytes
  | .timestamp => faultIn (readTimestamp cs)
  | .text => .ok (.text (String.ofList cs))
  | _ => .error .malformed

end FluentBuilder.Yaml
