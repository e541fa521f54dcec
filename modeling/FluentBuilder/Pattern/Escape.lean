import FluentBuilder.Pattern.Token
import FluentBuilder.Text.CharacterName

/-! Escapes: what a backslash with the characters behind it stands for, outside and inside a set. -/

namespace FluentBuilder.Pattern

open Number Text

def controlEscape? : Char → Option Nat
  | 'a' => some 7
  | 'f' => some 12
  | 'n' => some 10
  | 'r' => some 13
  | 't' => some 9
  | 'v' => some 11
  | '\\' => some 92
  | _ => none

/-- The classes with a letter of their own; capitals negate. -/
def categoryEscape? : Char → Option SetItem
  | 'd' => some (.category false .digit)
  | 'D' => some (.category true .digit)
  | 's' => some (.category false .blank)
  | 'S' => some (.category true .blank)
  | 'w' => some (.category false .word)
  | 'W' => some (.category true .word)
  | _ => none

def anchorEscape? : Char → Option Anchor
  | 'A' => some .textStart
  | 'b' => some .wordBoundary
  | 'B' => some .noWordBoundary
  | 'Z' => some .textEnd
  | _ => none

def isHexDigit (c : Char) : Bool := (digitOf? 16 c).isSome

def isOctalDigit (c : Char) : Bool := '0' ≤ c && c ≤ '7'

def isAsciiLetter (c : Char) : Bool := c.isAlpha

/-- Exactly `width` hexadecimal digits behind the letter of an escape. -/
def hexEscape (letter : Char) (width : Nat) : Read Nat := do
  let digits ← takeChars width isHexDigit
  let escape := '\\' :: letter :: digits
  if digits.length ≠ width then
    fail (.incompleteEscape (String.ofList escape)) escape.length
  let code := (natOfDigits? 16 digits).getD 0
  if Nat.pow 2 31 ≤ code then throw .hugeCode
  if 0x10FFFF < code then fail (.badEscape (String.ofList escape)) escape.length
  return code

/-- The value of an octal escape, at most 255. -/
def octalValue (digits : List Char) : Read Nat := do
  let code := (natOfDigits? 8 digits).getD 0
  if 0o377 < code then
    fail (.octalTooLarge (String.ofList ('\\' :: digits))) (digits.length + 1)
  return code

def badEscape {α : Type} (c : Char) : Read α := fail (.badEscape (String.ofList ['\\', c])) 2

/-- A character by its name in braces. A name with half a pair in it is no name. -/
def namedEscape : Read Nat := do
  if !(← accept '\x7b') then fail .missingBrace
  let name ← takeName "character name" '\x7d'
  if (codes name).any isHalf then badEscape 'N'
  match characterNamed? name with
  | some code => return code
  | none => fail (.unknownCharacter (String.ofList name)) (codeCount name + 4)

/-- The escapes by a code that are the same everywhere. -/
def codeEscape? (c : Char) : Read (Option Nat) := do
  let isText := (← get).isText
  if c = 'x' then return some (← hexEscape c 2)
  else if c = 'u' ∧ isText then return some (← hexEscape c 4)
  else if c = 'U' ∧ isText then return some (← hexEscape c 8)
  else if c = 'N' ∧ isText then return some (← namedEscape)
  else return none

/-- Reads the rest of an escape inside a set. -/
def setEscape (c : Char) : Read SetItem := do
  if c = 'b' then return .literal 8
  if let some code := controlEscape? c then return .literal code
  if let some item := categoryEscape? c then return item
  if let some code ← codeEscape? c then return .literal code
  if isOctalDigit c then
    return .literal (← octalValue (c :: (← takeChars 2 isOctalDigit)))
  if isDigit c || isAsciiLetter c then badEscape c
  return .literal (codeOf c)

/-- Reads an escape that begins with a digit other than zero: three octal digits, or a group. -/
def numberEscape (c : Char) : Read Node := do
  let second ← takeChars 1 isDigit
  let digits := c :: second
  let octal := !second.isEmpty && digits.all isOctalDigit
  let third ← if octal then takeChars 1 isOctalDigit else pure []
  if !third.isEmpty then return .literal false (← octalValue (digits ++ third))
  let index := natOfDigits digits
  if (← get).widths.length < index then
    fail (.invalidReference index) digits.length
  if !(← get).isClosed index then fail .openGroup (digits.length + 1)
  checkLookBehind index
  return .reference index

/-- Reads the rest of an escape outside a set. -/
def escape (c : Char) : Read Node := do
  if let some anchor := anchorEscape? c then return .anchor anchor
  if let some item := categoryEscape? c then return .set false [item]
  if let some code := controlEscape? c then return .literal false code
  if let some code ← codeEscape? c then return .literal false code
  if c = '0' then
    return .literal false ((natOfDigits? 8 (c :: (← takeChars 2 isOctalDigit))).getD 0)
  if isDigit c then return ← numberEscape c
  if isAsciiLetter c then badEscape c
  return .literal false (codeOf c)

end FluentBuilder.Pattern
