import FluentBuilder.Number.Numeral
import FluentBuilder.Text.Half
import FluentBuilder.Text.Hex

/-!
UTF-8: bytes to characters. A sequence that is not well formed is refused with its place, its length
and the reason; the length counts the bytes that could begin a character.
-/

namespace FluentBuilder.Text

open Number

inductive Utf8Reason
  | start
  | continuation
  | ending
  deriving DecidableEq

/-- Bytes that are no character: the place of the first, how many they are, and the first itself. -/
structure Utf8Fault where
  position : Nat
  length : Nat
  first : Nat
  reason : Utf8Reason
  deriving DecidableEq

def Utf8Reason.message : Utf8Reason → String
  | .start => "invalid start byte"
  | .continuation => "invalid continuation byte"
  | .ending => "unexpected end of data"

def Utf8Fault.message (f : Utf8Fault) : String :=
  let place :=
    if f.length = 1 then
      "byte 0x" ++ String.ofList (hexDigits 2 f.first) ++ " in position " ++ natText f.position
    else
      "bytes in position " ++ natText f.position ++ "-" ++ natText (f.position + f.length - 1)
  "'utf-8' codec can't decode " ++ place ++ ": " ++ f.reason.message

/-- How many bytes follow a first byte; none for a byte that begins no character. -/
def followers? (byte : Nat) : Option Nat :=
  if byte < 0x80 then some 0
  else if byte < 0xC2 then none
  else if byte < 0xE0 then some 1
  else if byte < 0xF0 then some 2
  else if byte < 0xF5 then some 3
  else none

/-- The least and the greatest second byte after a first byte: no character has a longer form than
it needs, none is half of a pair, and none is beyond the last code point. -/
def secondRange (first : Nat) : Nat × Nat :=
  if first = 0xE0 then (0xA0, 0xBF)
  else if first = 0xED then (0x80, 0x9F)
  else if first = 0xF0 then (0x90, 0xBF)
  else if first = 0xF4 then (0x80, 0x8F)
  else (0x80, 0xBF)

/-- How many of the bytes after a first one continue a character, up to a number of them. -/
def continuing (low high : Nat) : Nat → List UInt8 → Nat
  | 0, _ | _, [] => 0
  | n + 1, b :: bs =>
    if low ≤ b.toNat ∧ b.toNat ≤ high then 1 + continuing 0x80 0xBF n bs else 0

def codeOfBytes (first : Nat) (rest : List UInt8) : Nat :=
  let bits := if rest.isEmpty then first else first % Nat.pow 2 (6 - rest.length)
  rest.foldl (fun code b => code * 64 + b.toNat % 64) bits

/-- Reads the characters of bytes from a place on; `pending` bytes belong to a character that has
been read already. -/
def charsFrom (position pending : Nat) : List UInt8 → Except Utf8Fault (List Char)
  | [] => .ok []
  | b :: bs =>
    match pending with
    | p + 1 => charsFrom (position + 1) p bs
    | 0 =>
      let first := b.toNat
      match followers? first with
      | none => .error { position, length := 1, first, reason := .start }
      | some n =>
        let (low, high) := secondRange first
        let found := continuing low high n bs
        if found = n then do
          let rest ← charsFrom (position + 1) n bs
          return Char.ofNat (codeOfBytes first (bs.take n)) :: rest
        else
          let reason := if found = bs.length then .ending else .continuation
          .error { position, length := 1 + found, first, reason }

def charsOfUtf8 (bytes : List UInt8) : Except Utf8Fault (List Char) := charsFrom 0 0 bytes

/-- The text with each of the three kinds of line ends as a line feed. -/
def normalizeLines : List Char → List Char
  | [] => []
  | '\r' :: '\n' :: cs => '\n' :: normalizeLines cs
  | c :: cs => (if c = '\r' then '\n' else c) :: normalizeLines cs

/-- Reads the text of bytes, with plain line ends. -/
def textOfUtf8 (bytes : List UInt8) : Except Utf8Fault (List Char) :=
  (charsOfUtf8 bytes).map fun cs => textOfChars (normalizeLines cs)

end FluentBuilder.Text
