import FluentBuilder.Text.Blank

/-!
Reading assignments from a file of variables. Each line gives a name a value, or mentions a name
only; a value may be quoted, and then may hold line breaks. Comments are skipped, and so is what
cannot be read.
-/

namespace FluentBuilder

/-- What a piece of a file of variables says. A piece that cannot be read has the number of the line
on which it begins. -/
inductive Statement
  | nothing
  | assignment (name : String) (value : Option String)
  | unreadable (line : Nat)
  deriving DecidableEq

namespace Statement

open Text

/-- A blank within a line. -/
def isMargin (c : Char) : Bool := isBlank c && c ≠ '\n' && c ≠ '\r'

def isLineBreak (c : Char) : Bool := c = '\n' || c = '\r'

/-- The text without blanks at the start of its line. -/
def dropMargin (cs : List Char) : List Char := cs.dropWhile isMargin

/-- What reading gives: a result and the text behind it, or the text at which reading stopped. -/
abbrev Reading (α : Type) := Except (List Char) (α × List Char)

/-- The text without the word `export` and the blanks behind it. -/
def dropExport (cs : List Char) : List Char :=
  let rest := cs.drop 6
  if "export".toList.isPrefixOf cs && rest.head?.any isMargin then dropMargin rest else cs

def isNameChar (c : Char) : Bool := c ≠ '=' && c ≠ '#' && !isBlank c

/-- Reads a name, which single quotes may enclose; a comment has none. -/
def readName (cs : List Char) : Reading (Option (List Char)) :=
  match cs with
  | '#' :: _ => .ok (none, cs)
  | '\'' :: more =>
    let name := more.takeWhile (· ≠ '\'')
    match more.dropWhile (· ≠ '\'') with
    | _ :: rest => if name.isEmpty then .error cs else .ok (some name, rest)
    | [] => .error cs
  | _ =>
    let name := cs.takeWhile isNameChar
    if name.isEmpty then .error cs else .ok (some name, cs.dropWhile isNameChar)

/-- The text up to the closing quote, and what follows. A quote behind a backslash closes the text
only if no other quote does. -/
def closed? (quote : Char) : List Char → Option (List Char × List Char)
  | [] => none
  | '\\' :: c :: cs =>
    if c = quote then
      match closed? quote cs with
      | some (text, rest) => some ('\\' :: c :: text, rest)
      | none => some (['\\'], cs)
    else (closed? quote (c :: cs)).map fun (text, rest) => ('\\' :: text, rest)
  | c :: cs =>
    if c = quote then some ([], cs)
    else (closed? quote cs).map fun (text, rest) => (c :: text, rest)

def singleEscapes : List (Char × Char) := [('\\', '\\'), ('\'', '\'')]

def doubleEscapes : List (Char × Char) :=
  [('\\', '\\'), ('\'', '\''), ('"', '"'), ('a', '\x07'), ('b', '\x08'), ('f', '\x0c'),
    ('n', '\n'), ('r', '\r'), ('t', '\t'), ('v', '\x0b')]

/-- The text with its escapes replaced; a backslash before any other character stays. -/
def unescape (escapes : List (Char × Char)) : List Char → List Char
  | [] => []
  | '\\' :: c :: cs =>
    match escapes.lookup c with
    | some d => d :: unescape escapes cs
    | none => '\\' :: unescape escapes (c :: cs)
  | c :: cs => c :: unescape escapes cs

/-- The text before a comment; a comment begins with a number sign behind a blank. -/
def beforeComment : List Char → List Char
  | [] => []
  | c :: cs =>
    if isBlank c && (cs.dropWhile isBlank).head? == some '#' then [] else c :: beforeComment cs

/-- Reads a value: between quotes, or up to a comment or the end of the line. -/
def readValue (cs : List Char) : Reading (List Char) :=
  let quoted (quote : Char) (escapes : List (Char × Char)) (more : List Char) :=
    match closed? quote more with
    | some (text, rest) => .ok (unescape escapes text, rest)
    | none => .error cs
  match cs with
  | '\'' :: more => quoted '\'' singleEscapes more
  | '"' :: more => quoted '"' doubleEscapes more
  | _ =>
    .ok (trimEnd (beforeComment (cs.takeWhile (!isLineBreak ·))), cs.dropWhile (!isLineBreak ·))

def dropComment (cs : List Char) : List Char :=
  match dropMargin cs with
  | '#' :: rest => rest.dropWhile (!isLineBreak ·)
  | _ => cs

def readLineEnd (cs : List Char) : Reading Unit :=
  match dropMargin cs with
  | [] => .ok ((), [])
  | c :: rest => if isLineBreak c then .ok ((), rest) else .error cs

/-- Reads an equals sign and a value, if the sign stands here. -/
def readAssigned (cs : List Char) : Reading (Option (List Char)) :=
  match dropMargin cs with
  | '=' :: rest => (readValue (dropMargin rest)).map fun (value, rest) => (some value, rest)
  | rest => .ok (none, rest)

def readStatement (cs : List Char) : Except (List Char) (Statement × List Char) := do
  let (name, rest) ← readName (dropExport cs)
  let (value, rest) ← readAssigned rest
  let (_, rest) ← readLineEnd (dropComment rest)
  let statement := match name with
    | some name => .assignment (String.ofList name) (value.map String.ofList)
    | none => .nothing
  return (statement, rest)

def dropLine (cs : List Char) : List Char := (cs.dropWhile (!isLineBreak ·)).drop 1

def readFrom (line : Nat) (cs : List Char) : Nat → List Statement
  | 0 => []
  | steps + 1 =>
    let begun := trimStart cs
    if begun.isEmpty then []
    else
      let (statement, rest) := match readStatement begun with
        | .ok (statement, rest) => (statement, rest)
        | .error stopped => (.unreadable line, dropLine stopped)
      let breaks := (cs.take (cs.length - rest.length)).count '\n'
      statement :: readFrom (line + breaks) rest steps

def readAll (cs : List Char) : List Statement := readFrom 1 cs cs.length

end Statement

end FluentBuilder
