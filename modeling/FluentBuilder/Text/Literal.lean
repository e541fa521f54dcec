import FluentBuilder.Text.Half
import FluentBuilder.Text.Hex
import FluentBuilder.Text.Printable

/-!
Literals of texts and of byte strings: the content between quotes, with escapes for the quote, the
backslash, line breaks and all that is not printable. Single quotes are used unless the content has
single quotes only.
-/

namespace FluentBuilder.Text

/-- The quote that needs fewer escapes. -/
def literalQuote (cs : List Char) : Char :=
  if cs.contains '\'' && !cs.contains '"' then '"' else '\''

def commonEscape? (quote c : Char) : Option (List Char) :=
  if c = '\\' ∨ c = quote then some ['\\', c]
  else if c = '\n' then some ['\\', 'n']
  else if c = '\r' then some ['\\', 'r']
  else if c = '\t' then some ['\\', 't']
  else none

/-- The escape of a character by its code, in the shortest of three widths. -/
def escapeCode (code : Nat) : List Char :=
  if code < 0x100 then '\\' :: 'x' :: hexDigits 2 code
  else if code < 0x10000 then '\\' :: 'u' :: hexDigits 4 code
  else '\\' :: 'U' :: hexDigits 8 code

def escapeInLiteral (quote : Char) (code : Nat) : List Char :=
  if isHalf code then escapeCode code
  else
    let c := Char.ofNat code
    match commonEscape? quote c with
    | some escape => escape
    | none => if isPrintable c then [c] else escapeCode code

def literal (cs : List Char) : List Char :=
  let quote := literalQuote cs
  quote :: ((codes cs).flatMap (escapeInLiteral quote) ++ [quote])

def quoted (s : String) : String := String.ofList (literal s.toList)

def escapeByte (quote c : Char) : List Char :=
  match commonEscape? quote c with
  | some escape => escape
  | none =>
    if 0x20 ≤ c.toNat ∧ c.toNat < 0x7F then [c] else '\\' :: 'x' :: hexDigits 2 c.toNat

def bytesLiteral (bytes : List UInt8) : List Char :=
  let cs := bytes.map fun b => Char.ofNat b.toNat
  let quote := literalQuote cs
  'b' :: quote :: (cs.flatMap (escapeByte quote) ++ [quote])

end FluentBuilder.Text
