/-!
The codes of a text. A text can hold half of a surrogate pair that stands alone, though it is no
character; it is kept as a private character of plane 15, from U+FD800 to U+FDFFF. These characters
and the one before them are kept with that one in front, so that each sequence of codes has a text
of its own.
-/

namespace FluentBuilder.Text

def isHalf (code : Nat) : Bool := 0xD800 ≤ code && code < 0xE000

/-- The character behind which the next one stands for itself. -/
def plainMark : Char := Char.ofNat 0xFD7FF

/-- The codes of the mark and of the characters that are kept for halves. -/
def isMarked (code : Nat) : Bool := 0xFD7FF ≤ code && code < 0xFE000

/-- The characters that are kept for a code. -/
def charsOfCode (code : Nat) : List Char :=
  if isHalf code then [Char.ofNat (0xF0000 + code)]
  else if isMarked code then [plainMark, Char.ofNat code]
  else [Char.ofNat code]

/-- The code that a character is kept for, unless it stands for itself. -/
def codeOf (c : Char) : Nat :=
  if isHalf (c.toNat - 0xF0000) then c.toNat - 0xF0000 else c.toNat

def codes : List Char → List Nat
  | [] => []
  | [c] => [codeOf c]
  | c :: d :: cs => if c = plainMark then d.toNat :: codes cs else codeOf c :: codes (d :: cs)

/-- The text of characters that all stand for themselves. -/
def textOfChars (cs : List Char) : List Char := cs.flatMap fun c => charsOfCode c.toNat

def codeCount (cs : List Char) : Nat := (codes cs).length

/-- A string as it is shown to people: a half that stands alone is shown as a mark of its own. -/
def shown (s : String) : String :=
  String.ofList ((codes s.toList).map fun code => if isHalf code then '\ufffd' else Char.ofNat code)

/-- The string of a text that has come from outside. -/
def taken (s : String) : String := String.ofList (textOfChars s.toList)

/-- How many bytes codes have when they are written; a half that keeps a byte has one. -/
def writtenSize (codes : List Nat) : Nat :=
  codes.foldl (fun size code => size + if isHalf code then 1 else (Char.ofNat code).utf8Size) 0

end FluentBuilder.Text
