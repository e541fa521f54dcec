import FluentBuilder.Yaml.Flaw
import FluentBuilder.Yaml.Place

/-!
Texts written as indented blocks: after a bar line breaks are kept, after an angle bracket single
ones become spaces. What becomes of the line breaks at the end is chosen by a sign.
-/

namespace FluentBuilder.Yaml

/-- What becomes of the line breaks at the end of a block. -/
inductive Chomping
  | strip
  | clip
  | keep
  deriving DecidableEq

def readChomping (s : Rest) : Option Chomping × Rest :=
  if s.peek = '+' then (some .keep, s.skip 1)
  else if s.peek = '-' then (some .strip, s.skip 1)
  else (none, s)

def readIncrement (s : Rest) : Except Malformed (Option Nat × Rest) :=
  if s.peek = '0' then .error .malformed
  else if s.peek.isDigit then .ok (some (s.peek.toNat - 48), s.skip 1)
  else .ok (none, s)

/-- Reads the signs behind the mark of a block, in either order. -/
def readBlockSigns (s : Rest) : Except Malformed (Chomping × Option Nat × Rest) := do
  let (first, s) := readChomping s
  let (increment, s) ← readIncrement s
  let (second, s) := if first = none ∧ increment ≠ none then readChomping s else (none, s)
  if !isSpaceOrEnd s.peek then throw .malformed
  return ((first.or second).getD .clip, increment, s)

def skipRestOfLine (s : Rest) : Except Malformed Rest :=
  let s := s.skipSpaces.skipComment
  if isLineEnd s.peek then .ok (takeBreak s).2 else .error .malformed

def emptyLines (column : Nat) : Rest → List Char × Rest
  | [] => ([], [])
  | l :: rest =>
    if l.char = ' ' ∧ l.column < column then emptyLines column rest
    else if isBreak l.char then
      let (breaks, rest) := emptyLines column rest
      (normalBreak l.char :: breaks, rest)
    else ([], l :: rest)

/-- Reads line breaks and all spaces; tells the column that the spaces reach at most. -/
def leadingLines (widest : Nat) : Rest → List Char × Nat × Rest
  | [] => ([], widest, [])
  | l :: rest =>
    if l.char = ' ' then leadingLines (max widest (l.column + 1)) rest
    else if isBreak l.char then
      let (breaks, widest, rest) := leadingLines widest rest
      (normalBreak l.char :: breaks, widest, rest)
    else ([], widest, l :: rest)

/-- The lines of a block: its text, the break of the last line, and the breaks behind that. -/
structure BlockLines where
  text : List Char
  lastBreak : List Char
  breaks : List Char
  rest : Rest

def beginsLine (column : Nat) (s : Rest) : Bool := s.column == column && s.peek != endMark

/-- What stands between two lines of a block: a folded break between lines that begin with no blank
is a space, or nothing if empty lines follow. -/
def joint (folded solid : Bool) (lineBreak breaks : List Char) (next : Rest) : List Char :=
  if folded && lineBreak = ['\n'] && solid && next.peek ≠ ' ' && next.peek ≠ '\t' then
    (if breaks.isEmpty then [' '] else [])
  else lineBreak

def blockLines (folded : Bool) (column : Nat) (breaks : List Char) (s : Rest) :
    Nat → BlockLines
  | 0 => { text := [], lastBreak := [], breaks, rest := s }
  | steps + 1 =>
    if !beginsLine column s then { text := [], lastBreak := [], breaks, rest := s }
    else
      let solid := s.peek ≠ ' ' && s.peek ≠ '\t'
      let (line, rest) := s.splitWhile fun c => !isLineEnd c
      let (lineBreak, rest) := takeBreak rest
      let (after, rest) := emptyLines column rest
      if beginsLine column rest then
        let more := blockLines folded column after rest steps
        { more with text := breaks ++ line ++ joint folded solid lineBreak after rest ++ more.text }
      else { text := breaks ++ line, lastBreak := lineBreak, breaks := after, rest }

/-- Reads a block behind its mark; `indent` is the indentation of what encloses it. -/
def readBlock (folded : Bool) (indent : Int) (s : Rest) : Except Malformed (List Char × Rest) := do
  let (chomping, increment, s) ← readBlockSigns s
  let s ← skipRestOfLine s
  let least := (indent + 1).toNat.max 1
  let (breaks, column, s) := match increment with
    | some n =>
      let column := least + n - 1
      let (breaks, s) := emptyLines column s
      (breaks, column, s)
    | none =>
      let (breaks, widest, s) := leadingLines 0 s
      (breaks, least.max widest, s)
  let lines := blockLines folded column breaks s s.length
  let ending := match chomping with
    | .strip => []
    | .clip => lines.lastBreak
    | .keep => lines.lastBreak ++ lines.breaks
  return (lines.text ++ ending, lines.rest)

end FluentBuilder.Yaml
