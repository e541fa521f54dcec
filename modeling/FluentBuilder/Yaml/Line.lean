import FluentBuilder.Text.Half
import FluentBuilder.Text.Hex
import FluentBuilder.Yaml.Style

/-!
Writing texts on lines of limited width. A line that has grown too long is broken at the next single
space; between double quotes it can be broken elsewhere too, with a backslash at its end.
-/

namespace FluentBuilder.Yaml

open Text

def lineWidth : Nat := 80

def newLine (indent : Nat) : List Char := '\n' :: List.replicate indent ' '

/-- A part of a text: spaces, line feeds, or other characters. -/
inductive Chunk
  | spaces (count : Nat)
  | breaks (count : Nat)
  | word (cs : List Char)
  deriving DecidableEq

def consChunk (c : Char) : List Chunk → List Chunk
  | .spaces n :: rest =>
    if c = ' ' then .spaces (n + 1) :: rest
    else if c = '\n' then .breaks 1 :: .spaces n :: rest
    else .word [c] :: .spaces n :: rest
  | .breaks n :: rest =>
    if c = '\n' then .breaks (n + 1) :: rest
    else if c = ' ' then .spaces 1 :: .breaks n :: rest
    else .word [c] :: .breaks n :: rest
  | .word cs :: rest =>
    if c = ' ' then .spaces 1 :: .word cs :: rest
    else if c = '\n' then .breaks 1 :: .word cs :: rest
    else .word (c :: cs) :: rest
  | [] => if c = ' ' then [.spaces 1] else if c = '\n' then [.breaks 1] else [.word [c]]

def chunks (cs : List Char) : List Chunk := cs.foldr consChunk []

def writePlain (indent column : Nat) : List Chunk → List Char
  | [] => []
  | .word cs :: rest => cs ++ writePlain indent (column + cs.length) rest
  | .breaks n :: rest => List.replicate n '\n' ++ writePlain indent 0 rest
  | .spaces n :: rest =>
    if n = 1 ∧ lineWidth < column then newLine indent ++ writePlain indent indent rest
    else List.replicate n ' ' ++ writePlain indent (column + n) rest

/-- A word between single quotes: quotes in it are doubled. -/
def doubledQuotes (cs : List Char) : List Char :=
  cs.flatMap fun c => if c = '\'' then ['\'', '\''] else [c]

/-- Writes the chunks of a text between single quotes. Each run of line feeds is written with one
more; spaces at either end stay where they are. -/
def writeSingle (indent column : Nat) (first : Bool) : List Chunk → List Char
  | [] => []
  | .word cs :: rest =>
    let text := doubledQuotes cs
    text ++ writeSingle indent (column + text.length) false rest
  | .breaks n :: rest =>
    List.replicate n '\n' ++ newLine indent ++ writeSingle indent indent false rest
  | .spaces n :: rest =>
    if n = 1 ∧ lineWidth < column ∧ !first ∧ !rest.isEmpty then
      newLine indent ++ writeSingle indent indent false rest
    else List.replicate n ' ' ++ writeSingle indent (column + n) false rest

def shortEscapes : List (Char × Char) :=
  [('\x00', '0'), ('\x07', 'a'), ('\x08', 'b'), ('\t', 't'), ('\n', 'n'), ('\x0b', 'v'),
    ('\x0c', 'f'), ('\r', 'r'), ('\x1b', 'e'), ('"', '"'), ('\\', '\\'), ('\u0085', 'N'),
    ('\u00a0', '_'), ('\u2028', 'L'), ('\u2029', 'P')]

/-- The escape of a code by its digits, in the shortest of three widths. -/
def digitEscape (code : Nat) : List Char :=
  if code < 0x100 then '\\' :: 'x' :: upperHexDigits 2 code
  else if code < 0x10000 then '\\' :: 'u' :: upperHexDigits 4 code
  else '\\' :: 'U' :: upperHexDigits 8 code

/-- The escape of a character that cannot stand between double quotes as it is. -/
def escape? (code : Nat) : Option (List Char) :=
  let c := Char.ofNat code
  if isHalf code then some (digitEscape code)
  else if c ≠ '"' ∧ c ≠ '\\' ∧ ' ' ≤ c ∧ c ≤ '~' then none
  else match shortEscapes.lookup c with
    | some letter => some ['\\', letter]
    | none => some (digitEscape code)

/-- A break of a line between double quotes. A space that follows it is marked by a backslash. -/
def brokenLine (indent : Nat) (next : Option Nat) : List Char × Nat :=
  if next = some ' '.toNat then ('\\' :: newLine indent ++ ['\\'], indent + 1)
  else ('\\' :: newLine indent, indent)

/-- Writes codes between double quotes; `pending` are the characters, the last one first, that have
not been written yet and stand behind the column. -/
def writeDouble (indent column : Nat) (first : Bool) (pending : List Char) : List Nat → List Char
  | [] => pending.reverse
  | code :: rest =>
    let inside := !first && !rest.isEmpty
    match escape? code with
    | some escape =>
      let column := column + pending.length + escape.length
      let written := pending.reverse ++ escape
      if inside && lineWidth + 1 < column then
        let (cut, column) := brokenLine indent rest.head?
        written ++ cut ++ writeDouble indent column false [] rest
      else written ++ writeDouble indent column false [] rest
    | none =>
      let c := Char.ofNat code
      if inside && (c = ' ' || pending.isEmpty) && lineWidth < column + pending.length then
        let (cut, column) := brokenLine indent (some code)
        pending.reverse ++ cut ++ writeDouble indent column false [c] rest
      else writeDouble indent column false (c :: pending) rest

/-- Writes a text behind a column in its style; lines that continue it are indented. -/
def writeText (indent column : Nat) (text : String) : List Char :=
  let cs := text.toList
  match Style.of cs with
  | .plain => ' ' :: writePlain indent (column + 1) (chunks cs)
  | .single => ' ' :: '\'' :: (writeSingle indent (column + 2) true (chunks cs) ++ ['\''])
  | .double => ' ' :: '"' :: (writeDouble indent (column + 2) true [] (codes cs) ++ ['"'])

end FluentBuilder.Yaml
