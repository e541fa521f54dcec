/-!
Characters of a YAML text with their places. Each text ends with a mark, so that a reader always
finds a character to look at.
-/

namespace FluentBuilder.Yaml

structure Located where
  char : Char
  index : Nat
  line : Nat
  column : Nat

abbrev Rest := List Located

/-- The character that stands for the end of the text. -/
def endMark : Char := '\x00'

def isBreak (c : Char) : Bool :=
  c = '\n' || c = '\u0085' || c = '\u2028' || c = '\u2029'

def isLineEnd (c : Char) : Bool := c = endMark || isBreak c

def isSpaceOrEnd (c : Char) : Bool := c = ' ' || isLineEnd c

/-- A space, a tab, a line break or the end. -/
def isGap (c : Char) : Bool := c = '\t' || isSpaceOrEnd c

/-- Gives each character its place. A byte order mark takes no column. -/
def locateFrom (index line column : Nat) : List Char → Rest
  | [] => [{ char := endMark, index, line, column }]
  | c :: cs =>
    { char := c, index, line, column } ::
      if isBreak c then locateFrom (index + 1) (line + 1) 0 cs
      else locateFrom (index + 1) line (if c = '\uFEFF' then column else column + 1) cs

def locate (cs : List Char) : Rest := locateFrom 0 0 0 cs

namespace Rest

def peek : Rest → Char
  | [] => endMark
  | l :: _ => l.char

def peekAt (n : Nat) (s : Rest) : Char := peek (s.drop n)

def skip (n : Nat) (s : Rest) : Rest := s.drop n

def column : Rest → Nat
  | [] => 0
  | l :: _ => l.column

def splitWhile (test : Char → Bool) (s : Rest) : List Char × Rest :=
  ((s.takeWhile fun l => test l.char).map (·.char), s.dropWhile fun l => test l.char)

def skipSpaces (s : Rest) : Rest := s.dropWhile (·.char = ' ')

def skipComment (s : Rest) : Rest :=
  if s.peek = '#' then s.dropWhile fun l => !isLineEnd l.char else s

end Rest

/-- What a line break counts as. -/
def normalBreak (c : Char) : Char := if c = '\u0085' then '\n' else c

def takeBreak : Rest → List Char × Rest
  | [] => ([], [])
  | l :: rest => if isBreak l.char then ([normalBreak l.char], rest) else ([], l :: rest)

/-- Three hyphens or three points with a gap behind them. -/
def isSeparator (s : Rest) : Bool :=
  let three := (s.take 3).map (·.char)
  (three = ['-', '-', '-'] || three = ['.', '.', '.']) && isGap (s.peekAt 3)

def isWordChar (c : Char) : Bool := c.isAlphanum || c = '-' || c = '_'

end FluentBuilder.Yaml
