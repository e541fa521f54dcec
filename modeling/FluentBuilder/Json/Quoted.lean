import FluentBuilder.Text.Half
import FluentBuilder.Text.Hex

/-! JSON strings in ASCII: what is not printable ASCII is escaped by its UTF-16 units. -/

namespace FluentBuilder.Json

open Text

/-- The escape of one UTF-16 unit. -/
def unitEscape (unit : Nat) : List Char := '\\' :: 'u' :: hexDigits 4 unit

def escape (code : Nat) : List Char :=
  let c := Char.ofNat code
  if isHalf code then unitEscape code
  else if c = '"' ∨ c = '\\' then ['\\', c]
  else if c = '\n' then ['\\', 'n']
  else if c = '\r' then ['\\', 'r']
  else if c = '\t' then ['\\', 't']
  else if c = '\x08' then ['\\', 'b']
  else if c = '\x0c' then ['\\', 'f']
  else if ' ' ≤ c ∧ c ≤ '~' then [c]
  else if code < 0x10000 then unitEscape code
  else
    unitEscape (0xD800 + (code - 0x10000) / 0x400) ++
      unitEscape (0xDC00 + (code - 0x10000) % 0x400)

def quoted (s : String) : String :=
  String.ofList ('"' :: ((codes s.toList).flatMap escape ++ ['"']))

end FluentBuilder.Json
