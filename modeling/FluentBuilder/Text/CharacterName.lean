import FluentBuilder.Text.CharacterName.Alias
import FluentBuilder.Text.CharacterName.Table
import FluentBuilder.Text.CharacterName.Words
import FluentBuilder.Text.Hex

/-!
Characters by their names. Most names are in a table and may be written in any case. The names of
Hangul syllables are made of the names of their letters, and those of the unified ideographs of
their codes; these are in upper case always.
-/

namespace FluentBuilder.Text

/-- A piece of the table: a sign and the characters up to the next one. -/
abbrev NamePiece := Char × List Char

/-- Cuts the table before each sign. -/
def namePieces (cs : List Char) : List NamePiece :=
  (cs.foldr
    (fun c (rest, pieces) =>
      if c = '@' || shareSigns.contains c then ([], (c, rest) :: pieces) else (c :: rest, pieces))
    ([], [])).2

/-- The word that small letters abbreviate. -/
def commonWord (letters : List Char) : List Char :=
  let index := letters.foldl (fun n c => 26 * n + (c.toNat - 97)) 0
  (commonWords[if letters.length < 2 then index else 26 + index]?.getD "").toList

/-- A word of the table in full: a run of small letters is an abbreviation. -/
def fullWord (word : List Char) : List Char :=
  if word.any Char.isLower then commonWord word else word

/-- A code in upper case, with as many digits as it needs but four at least. -/
def codeDigits (code : Nat) : List Char := upperHexDigits (if code < 0x10000 then 4 else 5) code

def hexValue? (cs : List Char) : Option Nat :=
  cs.foldl
    (fun value c => value.bind fun n =>
      if '0' ≤ c ∧ c ≤ '9' then some (16 * n + (c.toNat - 48))
      else if 'A' ≤ c ∧ c ≤ 'F' then some (16 * n + (c.toNat - 55))
      else none)
    (some 0)

/-- Looks a name, as its words, up in pieces of the table; `code` is that of the next name and
`previous` are the words of the last one. -/
def findInPieces (target : List (List Char)) : (code : Nat) → (previous : List (List Char)) →
    List NamePiece → Option Nat
  | _, _, [] => none
  | code, previous, (sign, cs) :: pieces =>
    if sign = '@' then findInPieces target ((hexValue? cs).getD code) previous pieces
    else
      let others := if cs.isEmpty then [] else cs.splitOn ' '
      let words := previous.take (shareSigns.idxOf sign) ++ others.map fullWord
      let shown := words.map (·.flatMap fun c => if c = '#' then codeDigits code else [c])
      if shown = target then some code else findInPieces target (code + 1) words pieces

def tabulatedCharacter? (name : List Char) : Option Nat :=
  findInPieces (name.splitOn ' ') 0 [] (namePieces (characterNameRows.flatMap String.toList))

def variationSelector? (name : List Char) : Option Nat :=
  ((List.range 256).map (· + 1)).findSome? fun n =>
    if name = 'V' :: 'S' :: (toString n).toList then
      some (if n ≤ 16 then 0xFE00 + (n - 1) else 0xE0100 + (n - 17))
    else none

/-- The names of the letters that begin a syllable. -/
def leadingJamo : List String :=
  ["G", "GG", "N", "D", "DD", "R", "M", "B", "BB", "S", "SS", "", "J", "JJ", "C", "K", "T", "P",
    "H"]

/-- The names of the vowels. -/
def vowelJamo : List String :=
  ["A", "AE", "YA", "YAE", "EO", "E", "YEO", "YE", "O", "WA", "WAE", "OE", "YO", "U", "WEO", "WE",
    "WI", "YU", "EU", "YI", "I"]

/-- The names of the letters that end a syllable. -/
def trailingJamo : List String :=
  ["", "G", "GG", "GS", "N", "NJ", "NH", "D", "L", "LG", "LM", "LB", "LS", "LT", "LP", "LH", "M",
    "B", "BS", "S", "SS", "NG", "J", "C", "K", "T", "P", "H"]

/-- The longest name that a text begins with: its index, and the rest of the text. -/
def takeJamo? (names : List String) (cs : List Char) : Option (Nat × List Char) :=
  (names.zipIdx.filter fun (name, _) => name.toList.isPrefixOf cs).foldl
    (fun best (name, index) =>
      let rest := cs.drop name.length
      match best with
      | some (_, shortest) =>
        if rest.length < shortest.length then some (index, rest) else best
      | none => some (index, rest))
    none

def hangulSyllable? (cs : List Char) : Option Nat := do
  let (leading, cs) ← takeJamo? leadingJamo cs
  let (vowel, cs) ← takeJamo? vowelJamo cs
  let (trailing, cs) ← takeJamo? trailingJamo cs
  if cs.isEmpty then some (0xAC00 + (leading * 21 + vowel) * 28 + trailing) else none

def ideographRuns : List (Nat × Nat) :=
  [(0x3400, 0x4DBF), (0x4E00, 0x9FFF), (0x20000, 0x2A6DF), (0x2A700, 0x2B738), (0x2B740, 0x2B81D),
    (0x2B820, 0x2CEA1), (0x2CEB0, 0x2EBE0), (0x30000, 0x3134A)]

/-- The unified ideograph of a code in four or five digits. -/
def unifiedIdeograph? (digits : List Char) : Option Nat := do
  let code ← hexValue? digits
  if (digits.length = 4 ∨ digits.length = 5) ∧
      ideographRuns.any fun (first, last) => first ≤ code && code ≤ last then some code
  else none

def behind? (words : String) (cs : List Char) : Option (List Char) :=
  if words.toList.isPrefixOf cs then some (cs.drop words.length) else none

def characterNamed? (name : List Char) : Option Nat :=
  match behind? "HANGUL SYLLABLE " name, behind? "CJK UNIFIED IDEOGRAPH-" name with
  | some syllable, _ => hangulSyllable? syllable
  | none, some digits => unifiedIdeograph? digits
  | none, none =>
    let upper := name.map Char.toUpper
    ((characterAliases.lookup (String.ofList upper)).or (variationSelector? upper)).or
      (tabulatedCharacter? upper)

end FluentBuilder.Text
