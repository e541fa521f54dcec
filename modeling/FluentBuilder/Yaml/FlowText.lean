import FluentBuilder.Yaml.Flaw
import FluentBuilder.Number.Numeral
import FluentBuilder.Yaml.Place

/-!
Texts written in the flow of a line: plain ones, and ones between quotes. A single line break inside
such a text is a space, and each further one a line break.
-/

namespace FluentBuilder.Yaml

open Number Text

/-- What a line break followed by others folds to. -/
def foldedBreak (lineBreak breaks : List Char) : List Char :=
  if lineBreak ≠ ['\n'] then lineBreak ++ breaks
  else if breaks.isEmpty then [' ']
  else breaks

/-- Reads the blanks and line breaks at the start of a line. No document may end here. -/
def quotedBreaks : Rest → Except Malformed (List Char × Rest)
  | [] => .ok ([], [])
  | l :: rest =>
    if l.column = 0 ∧ isSeparator (l :: rest) then .error .malformed
    else if l.char = ' ' ∨ l.char = '\t' then quotedBreaks rest
    else if isBreak l.char then do
      let (breaks, rest) ← quotedBreaks rest
      return (normalBreak l.char :: breaks, rest)
    else .ok ([], l :: rest)

def quotedGap (s : Rest) : Except Malformed (List Char × Rest) := do
  let (blanks, rest) := s.splitWhile fun c => c = ' ' || c = '\t'
  if rest.peek = endMark then throw .malformed
  if isBreak rest.peek then
    let (lineBreak, rest) := takeBreak rest
    let (breaks, rest) ← quotedBreaks rest
    return (foldedBreak lineBreak breaks, rest)
  else return (blanks, rest)

def simpleEscapes : List (Char × Char) :=
  [('0', '\x00'), ('a', '\x07'), ('b', '\x08'), ('t', '\t'), ('\t', '\t'), ('n', '\n'),
    ('v', '\x0b'), ('f', '\x0c'), ('r', '\r'), ('e', '\x1b'), (' ', ' '), ('"', '"'),
    ('\\', '\\'), ('/', '/'), ('N', '\u0085'), ('_', '\u00a0'), ('L', '\u2028'), ('P', '\u2029')]

/-- How many hexadecimal digits follow the letter of an escape. -/
def escapeWidth? (c : Char) : Option Nat :=
  if c = 'x' then some 2 else if c = 'u' then some 4 else if c = 'U' then some 8 else none

def readCode (width : Nat) (s : Rest) : Except Malformed (Nat × Rest) :=
  let digits := (s.take width).map (·.char)
  if digits.length < width then .error .malformed
  else match natOfDigits? 16 digits with
    | some code => .ok (code, s.drop width)
    | none => .error .malformed

/-- The text of a code. Half a pair stands for itself, also next to the other half. -/
def readCoded (width : Nat) (s : Rest) : Except Flaw (List Char × Rest) := do
  let (code, rest) ← readCode width s
  if 0x10FFFF < code then throw (.content (.beyondUnicode code))
  return (charsOfCode code, rest)

/-- Reads an escape behind its backslash. An escaped line break counts for nothing. -/
def readEscape (s : Rest) : Except Flaw (List Char × Rest) :=
  match simpleEscapes.lookup s.peek, escapeWidth? s.peek with
  | some c, _ => .ok ([c], s.skip 1)
  | none, some width => readCoded width (s.skip 1)
  | none, none =>
    if isBreak s.peek then liftM (quotedBreaks (s.skip 1)) else .error .malformed

/-- Reads one piece of a text between double quotes: an escape, blanks and breaks, or a
character. -/
def doublePiece (s : Rest) : Except Flaw (List Char × Rest) :=
  if s.peek = '\\' then readEscape (s.skip 1)
  else if isGap s.peek then liftM (quotedGap s)
  else .ok ([s.peek], s.skip 1)

/-- Reads one piece of a text between single quotes: a doubled quote, blanks and breaks, or a
character. -/
def singlePiece (s : Rest) : Except Malformed (List Char × Rest) :=
  if s.peek = '\'' then .ok (['\''], s.skip 2)
  else if isGap s.peek then quotedGap s
  else .ok ([s.peek], s.skip 1)

/-- The closing quote stands here: for single quotes, one that is not doubled. -/
def atClosingQuote (quote : Char) (s : Rest) : Bool :=
  s.peek = quote && !(quote = '\'' && s.peekAt 1 = '\'')

def readQuotedFrom (quote : Char) (s : Rest) : Nat → Except Flaw (List Char × Rest)
  | 0 => .error .malformed
  | steps + 1 =>
    if atClosingQuote quote s then .ok ([], s.skip 1)
    else do
      let (piece, rest) ← if quote = '"' then doublePiece s else liftM (singlePiece s)
      let (more, rest) ← readQuotedFrom quote rest steps
      return (piece ++ more, rest)

def readQuoted (quote : Char) (s : Rest) : Except Flaw (List Char × Rest) :=
  readQuotedFrom quote s (s.length + 1)

/-- A colon with this behind it ends a plain text. -/
def endsAtColon (inFlow : Bool) (c : Char) : Bool :=
  isGap c || inFlow && [',', '[', ']', '\x7b', '\x7d'].contains c

def plainWord (inFlow : Bool) : Rest → List Char × Rest
  | [] => ([], [])
  | l :: rest =>
    if isGap l.char || l.char = ':' && endsAtColon inFlow (Rest.peek rest) ||
        inFlow && [',', '?', '[', ']', '\x7b', '\x7d'].contains l.char then ([], l :: rest)
    else
      let (word, rest) := plainWord inFlow rest
      (l.char :: word, rest)

/-- Reads line breaks and spaces at the start of a line of a plain text. Where a document ends, the
text ends too. -/
def plainBreaks : Rest → Option (List Char) × Rest
  | [] => (some [], [])
  | l :: rest =>
    if l.column = 0 ∧ isSeparator (l :: rest) then (none, l :: rest)
    else if l.char = ' ' then plainBreaks rest
    else if isBreak l.char then
      let (breaks, rest) := plainBreaks rest
      (breaks.map (normalBreak l.char :: ·), rest)
    else (some [], l :: rest)

/-- What stands between two words of a plain text: nothing if the text ends here. -/
structure PlainGap where
  text : List Char
  crossesLine : Bool
  rest : Rest

def plainGap (s : Rest) : PlainGap :=
  let (spaces, rest) := s.splitWhile (· = ' ')
  if isBreak rest.peek then
    let (lineBreak, rest) := takeBreak rest
    let (breaks, rest) := plainBreaks rest
    { text := (breaks.map (foldedBreak lineBreak)).getD [], crossesLine := true, rest }
  else { text := spaces, crossesLine := false, rest }

/-- A plain text, and whether a line break has been crossed behind its last word. -/
structure PlainText where
  text : List Char
  crossesLine : Bool
  rest : Rest

/-- Reads the words of a plain text; none if no word begins here. -/
def readPlainFrom? (inFlow : Bool) (column : Int) (s : Rest) : Nat → Option PlainText
  | 0 => none
  | steps + 1 =>
    let (word, rest) := plainWord inFlow s
    if s.peek = '#' ∨ word.isEmpty then none
    else
      let gap := plainGap rest
      let only := { text := word, crossesLine := gap.crossesLine, rest := gap.rest }
      if gap.text.isEmpty || gap.rest.peek = '#' || !inFlow && gap.rest.column < column then
        some only
      else match readPlainFrom? inFlow column gap.rest steps with
        | none => some only
        | some more => some { more with text := word ++ gap.text ++ more.text }

/-- Reads a plain text. Outside brackets its lines must begin at the column or to the right of
it. -/
def readPlain (inFlow : Bool) (column : Int) (s : Rest) : PlainText :=
  (readPlainFrom? inFlow column s s.length).getD { text := [], crossesLine := false, rest := s }

end FluentBuilder.Yaml
