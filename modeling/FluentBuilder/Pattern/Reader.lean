import FluentBuilder.Pattern.GroupReader
import FluentBuilder.Pattern.Quantifier
import FluentBuilder.Pattern.SetReader

/-!
Reading patterns. Each step takes at least one token, so there are no more steps than tokens. After
the last one no group may be open; then the flags, the groups referred to by number and the widths
of lookbehinds are checked.
-/

namespace FluentBuilder.Pattern

open Text

def skipLine : List Token → Read Unit
  | [] => return
  | token :: rest => do
    discard next
    if token = .char '\n' then return else skipLine rest

def isSkipped (c : Char) : Bool := [' ', '\t', '\n', '\r', '\x0b', '\x0c'].contains c

def readChar (c : Char) : Read Unit := do
  if (← get).isVerbose && isSkipped c then return
  else if (← get).isVerbose && c = '#' then skipLine (← get).tokens
  else if c = '[' then append (← set)
  else if c = '*' ∨ c = '+' ∨ c = '?' ∨ c = '\x7b' then quantifier c
  else if c = '.' then append .any
  else if c = '(' then parenthesis
  else if c = '^' then append (.anchor .lineStart)
  else if c = '$' then append (.anchor .lineEnd)
  else append (.literal false (codeOf c))

/-- One step: reads what begins with the current token. A closing parenthesis that closes nothing is
left alone. -/
def step (token : Token) : Read Unit := do
  if token = .char '|' then nextAlternative
  else if token = .char ')' then
    match (← get).frames with
    | [] => return
    | frame :: outerFrames => closeFrame frame outerFrames
  else
    discard next
    match token with
    | .char c => readChar c
    | .escape c => append (← escape c)
    | .marked _ code => append (.literal false code)
    | .dangling => return

/-- Steps until the end or a closing parenthesis that closes nothing, at most `most` times. -/
def steps : Nat → Read Unit
  | 0 => return
  | most + 1 => do
    let s ← get
    match s.tokens with
    | [] => return
    | token :: _ =>
      if token = .char ')' ∧ s.frames.isEmpty then return
      step token
      steps most

mutual

/-- The first node that cannot be used: a repetition in a template, or a lookbehind without a fixed
width. -/
def Node.unusable? (template : Bool) : Node → Option Fault
  | .group _ _ _ body | .atomic body | .lookAhead _ body => unusableIn? template body
  | .repetition _ _ greed body =>
    if template then
      some (.templateOperator (match greed with
        | .greedy => "MAX_REPEAT"
        | .lazy => "MIN_REPEAT"
        | .possessive => "POSSESSIVE_REPEAT"))
    else unusableIn? template body
  | .branch alternatives => unusableInAny? template alternatives
  | .lookBehind _ (low, high) body =>
    if low ≠ high then some .variableLookBehind
    else unusableIn? template body
  | .condition _ yes no => (unusableIn? template yes).or (unusableIn? template no)
  | _ => none

def unusableIn? (template : Bool) : List Node → Option Fault
  | [] => none
  | node :: rest => (node.unusable? template).or (unusableIn? template rest)

def unusableInAny? (template : Bool) : List (List Node) → Option Fault
  | [] => none
  | alternative :: rest =>
    (unusableIn? template alternative).or (unusableInAny? template rest)

end

def readAll : Read (List Node) := do
  refuseDangling
  steps ((← get).tokens.length + 1)
  let s ← get
  if let frame :: _ := s.frames then failAt .unterminatedGroup frame.start
  if s.flags.ascii && s.flags.unicode then throw .asciiAndUnicode
  if s.flags.ascii && s.flags.locale then throw .asciiAndLocale
  if !s.tokens.isEmpty then fail .unbalanced
  for (index, position) in s.awaited do
    if s.widths.length < index then failAt (.invalidReference index) position
  return s.level.close

/-- What a pattern says: its flags, the widths of its groups and its nodes. -/
structure Reading where
  flags : Flags
  widths : List (Option (Nat × Nat))
  nodes : List Node

/-- Reads a pattern: one for texts, or one for byte strings with a character for each byte. -/
def readPattern (pattern : List Char) (isText : Bool) : Except Refusal Reading := do
  let (nodes, s) ← readAll.run { tokens := tokens pattern.length pattern, isText }
  match unusableIn? s.flags.template nodes with
  | some fault => throw (.malformed { fault })
  | none => return { flags := s.flags, widths := s.widths, nodes }

end FluentBuilder.Pattern
