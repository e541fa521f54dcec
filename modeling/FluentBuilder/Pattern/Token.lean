import FluentBuilder.Number.Numeral
import FluentBuilder.Pattern.Error
import FluentBuilder.Pattern.Node
import FluentBuilder.Text.Alphanumeric
import FluentBuilder.Text.Identifier

/-!
The tokens of a pattern and the state of its reader. A token is a character, or a backslash with the
character behind it. A backslash at the very end is refused as soon as the reader comes to it. A
character that stands for itself behind a mark is a token by its code.
-/

namespace FluentBuilder.Pattern

open Number Text

inductive Token
  | char (c : Char)
  | escape (c : Char)
  | marked (isEscaped : Bool) (code : Nat)
  | dangling
  deriving DecidableEq

def Token.text : Token → List Char
  | .char c => [c]
  | .escape c => ['\\', c]
  | .marked isEscaped code => (if isEscaped then ['\\'] else []) ++ charsOfCode code
  | .dangling => ['\\']

def Token.size (token : Token) : Nat := codeCount token.text

/-- The token of a character, or of the one that it marks, and what follows. -/
def takeToken (isEscaped : Bool) (c : Char) (rest : List Char) : Token × List Char :=
  match rest with
  | d :: rest =>
    if c = plainMark then (.marked isEscaped d.toNat, rest)
    else (if isEscaped then .escape c else .char c, d :: rest)
  | [] => (if isEscaped then .escape c else .char c, [])

def tokens : (length : Nat) → List Char → List Token
  | 0, _ | _, [] => []
  | length + 1, '\\' :: c :: rest =>
    let (token, rest) := takeToken true c rest
    token :: tokens length rest
  | _, ['\\'] => [.dangling]
  | length + 1, c :: rest =>
    let (token, rest) := takeToken false c rest
    token :: tokens length rest

/-- A sequence in the making, last node first, behind the finished alternatives before it. -/
structure Level where
  nodes : List Node := []
  alternatives : List (List Node) := []

/-- The finished sequence that a level ends with; groups that only hold their contents together are
opened up. -/
def Level.sequence (level : Level) : List Node := level.nodes.reverse.flatMap Node.contents

/-- The finished sequence of a level: its nodes, or one choice between its alternatives. -/
def Level.close (level : Level) : List Node :=
  match level.alternatives.reverse with
  | [] => level.sequence
  | first :: others => choice first (others ++ [level.sequence])

inductive Opening
  | group (index : Option Nat) (added removed : Flags)
  | atomic
  | lookAhead (negated : Bool)
  | lookBehind (negated : Bool) (outermost : Bool)
  | condition (index : Nat)

/-- An open parenthesis: where it stands, whether its contents are verbose, and the level around. -/
structure Frame where
  opening : Opening
  start : Nat
  verbose : Bool
  outer : Level

/-- The state of the reader. The widths are those of the groups opened so far, if closed; `limit` is
the first group of the lookbehind that is being read; `awaited` are groups referred to by number. -/
structure State where
  tokens : List Token
  position : Nat := 0
  isText : Bool
  flags : Flags := {}
  widths : List (Option (Nat × Nat)) := []
  names : List (String × Nat) := []
  limit : Option Nat := none
  awaited : List (Nat × Nat) := []
  frames : List Frame := []
  level : Level := {}

/-- A reading step: it changes the state or refuses the pattern. -/
abbrev Read := StateT State (Except Refusal)

/-- Refuses the pattern with a fault that lies `back` characters before the current token. -/
def fail {α : Type} (fault : Fault) (back : Nat := 0) : Read α := do
  throw (.malformed { fault, position := some ((← get).position - back) })

def failAt {α : Type} (fault : Fault) (position : Nat) : Read α :=
  throw (.malformed { fault, position := some position })

def peek : Read (Option Token) := return (← get).tokens.head?

def refuseDangling : Read Unit := do
  if (← peek) = some .dangling then fail .danglingBackslash

def next : Read (Option Token) := do
  match (← get).tokens with
  | [] => return none
  | token :: rest =>
    modify fun s => { s with tokens := rest, position := s.position + token.size }
    refuseDangling
    return some token

def accept (c : Char) : Read Bool := do
  if (← peek) = some (.char c) then
    discard next
    return true
  else return false

def takeChars (most : Nat) (test : Char → Bool) : Read (List Char) :=
  match most with
  | 0 => return []
  | n + 1 => do
    match ← peek with
    | some (.char c) =>
      if test c then
        discard next
        return c :: (← takeChars n test)
      else return []
    | _ => return []

/-- Takes a name and the character that ends it, of as many tokens as there are. -/
def takeNameOf (what : String) (terminator : Char) : List Token → List Char → Read (List Char)
  | [], name =>
    if name.isEmpty then fail (.missingName what)
    else fail (.unterminatedName terminator) (codeCount name)
  | token :: rest, name => do
    discard next
    if token = .char terminator then
      if name.isEmpty then fail (.missingName what) 1 else return name
    else takeNameOf what terminator rest (name ++ token.text)

def takeName (what : String) (terminator : Char) : Read (List Char) := do
  takeNameOf what terminator (← get).tokens []

def append (node : Node) : Read Unit :=
  modify fun s => { s with level := { s.level with nodes := node :: s.level.nodes } }

def State.isClosed (s : State) : Nat → Bool
  | 0 => false
  | index + 1 => ((s.widths[index]?).getD none).isSome

/-- Inside a lookbehind, refuses references to groups that are open or belong to it. -/
def checkLookBehind (index : Nat) : Read Unit := do
  let s ← get
  match s.limit with
  | none => return
  | some limit =>
    if !s.isClosed index then fail .openGroup
    if limit ≤ index then fail .sameLookBehind

end FluentBuilder.Pattern
