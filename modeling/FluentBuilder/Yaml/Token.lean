import FluentBuilder.Number.Numeral
import FluentBuilder.Yaml.Flaw
import FluentBuilder.Yaml.Place

/-!
Tokens of a YAML text, and reading those that begin with a sign: directives, anchors, aliases and
tags.
-/

namespace FluentBuilder.Yaml

open Number

/-- A token. Tokens for the start and end of blocks have no characters of their own. -/
inductive Token
  | version (major : Nat)
  | handle (handle stem : String)
  | remark
  | documentStart
  | documentEnd
  | blockSequence
  | blockMapping
  | blockEnd
  | openBracket
  | closeBracket
  | openBrace
  | closeBrace
  | item
  | comma
  | key
  | value
  | alias (name : String)
  | anchor (name : String)
  | tag (handle : Option String) (suffix : String)
  | scalar (text : List Char) (plain : Bool)
  deriving DecidableEq

def readWord (s : Rest) : Except Malformed (String × Rest) :=
  let (word, rest) := s.splitWhile isWordChar
  if word.isEmpty then .error .malformed else .ok (String.ofList word, rest)

def readName (s : Rest) : Except Malformed (String × Rest) := do
  let (name, rest) ← readWord s
  if isGap rest.peek || "?:,]\x7d%@\x60".toList.contains rest.peek then return (name, rest)
  else throw .malformed

/-- A character of a tag that stands for itself. -/
def isTagChar (c : Char) : Bool :=
  c.isAlphanum || "-;/?:@&=+$,_.!~*'()[]".toList.contains c

def escapedBytes (s : Rest) : Nat → Except Malformed (List UInt8 × Rest)
  | 0 => .ok ([], s)
  | steps + 1 =>
    if s.peek = '%' then
      match natOfDigits? 16 ((s.skip 1).take 2 |>.map (·.char)) with
      | some byte => do
        let (bytes, rest) ← escapedBytes (s.skip 3) steps
        return (byte.toUInt8 :: bytes, rest)
      | none => .error .malformed
    else .ok ([], s)

def escapedText (s : Rest) : Except Malformed (List Char × Rest) := do
  let (bytes, rest) ← escapedBytes s s.length
  match String.fromUTF8? (ByteArray.mk bytes.toArray) with
  | some text => return (text.toList, rest)
  | none => throw .malformed

def tagChars (s : Rest) : Nat → Except Malformed (List Char × Rest)
  | 0 => .ok ([], s)
  | steps + 1 =>
    if isTagChar s.peek then do
      let (more, rest) ← tagChars (s.skip 1) steps
      return (s.peek :: more, rest)
    else if s.peek = '%' then do
      let (text, rest) ← escapedText s
      let (more, rest) ← tagChars rest steps
      return (text ++ more, rest)
    else .ok ([], s)

def readTagChars (s : Rest) : Except Malformed (String × Rest) := do
  if !(isTagChar s.peek || s.peek = '%') then throw .malformed
  let (text, rest) ← tagChars s s.length
  return (String.ofList text, rest)

/-- Reads a handle: an exclamation mark, or a word between two of them. -/
def readHandle (s : Rest) : Except Malformed (String × Rest) :=
  if s.peek ≠ '!' then .error .malformed
  else if s.peekAt 1 = ' ' then .ok ("!", s.skip 1)
  else
    let (word, rest) := (s.skip 1).splitWhile isWordChar
    if rest.peek = '!' then .ok (String.ofList ('!' :: word ++ ['!']), rest.skip 1)
    else .error .malformed

/-- Reads a tag: verbatim between angle brackets, a lone exclamation mark, or with a handle. -/
def readTag (s : Rest) : Except Malformed (Token × Rest) := do
  let (token, rest) ←
    if s.peekAt 1 = '<' then do
      let (text, rest) ← readTagChars (s.skip 2)
      if rest.peek ≠ '>' then throw .malformed
      pure (Token.tag none text, rest.skip 1)
    else if isGap (s.peekAt 1) then pure (Token.tag none "!", s.skip 1)
    else do
      let word := ((s.skip 1).splitWhile fun c => !isSpaceOrEnd c).1
      let (handle, rest) ← if word.contains '!' then readHandle s else pure ("!", s.skip 1)
      let (text, rest) ← readTagChars rest
      pure (Token.tag (some handle) text, rest)
  if isSpaceOrEnd rest.peek then return (token, rest) else throw .malformed

def readNatural (s : Rest) : Except Malformed (Nat × Rest) :=
  let (digits, rest) := s.splitWhile isDigit
  match natOfDigits? 10 digits with
  | some n => .ok (n, rest)
  | none => .error .malformed

def readVersion (s : Rest) : Except Malformed (Token × Rest) := do
  let (major, rest) ← readNatural s.skipSpaces
  if rest.peek ≠ '.' then throw .malformed
  let (_, rest) ← readNatural (rest.skip 1)
  if isSpaceOrEnd rest.peek then return (.version major, rest) else throw .malformed

def readHandleLine (s : Rest) : Except Malformed (Token × Rest) := do
  let (handle, rest) ← readHandle s.skipSpaces
  if rest.peek ≠ ' ' then throw .malformed
  let (stem, rest) ← readTagChars rest.skipSpaces
  if isSpaceOrEnd rest.peek then return (.handle handle stem, rest) else throw .malformed

/-- Reads a directive behind its percent sign, up to a comment or the end of the line. -/
def readDirective (s : Rest) : Except Malformed (Token × Rest) := do
  let (name, rest) ← readWord s
  if !isSpaceOrEnd rest.peek then throw .malformed
  if name = "YAML" then readVersion rest
  else if name = "TAG" then readHandleLine rest
  else return (.remark, rest.dropWhile fun l => !isLineEnd l.char)

end FluentBuilder.Yaml
