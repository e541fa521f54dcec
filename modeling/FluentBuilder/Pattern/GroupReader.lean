import FluentBuilder.Number.Reading
import FluentBuilder.Pattern.Escape

/-!
What an opening parenthesis begins: a group with or without a number or a name, flags, a look
around, a condition, a reference by name or a comment.
-/

namespace FluentBuilder.Pattern

open Number Text

def openFrame (opening : Opening) (start : Nat) (verbose : Bool) : Read Unit :=
  modify fun s =>
    { s with frames := { opening, start, verbose, outer := s.level } :: s.frames, level := {} }

def State.isVerbose (s : State) : Bool :=
  match s.frames with
  | [] => s.flags.verbose
  | frame :: _ => frame.verbose

def flagOf? : Char → Option Flags
  | 'i' => some { ignoreCase := true }
  | 'L' => some { locale := true }
  | 'm' => some { multiline := true }
  | 's' => some { dotAll := true }
  | 'x' => some { verbose := true }
  | 'a' => some { ascii := true }
  | 't' => some { template := true }
  | 'u' => some { unicode := true }
  | _ => none

def Token.flag? : Token → Option Flags
  | .char c => flagOf? c
  | _ => none

def Token.isLetter : Token → Bool
  | .char c => Text.isLetter c
  | _ => false

/-- Takes the next token where flags are read, or says what is missing. -/
def nextFlag (what : String) (accepted : List Char) : Read Token := do
  match ← next with
  | none => fail (.missing what)
  | some token =>
    if accepted.any (token = .char ·) then return token
    else if token.flag?.isSome then return token
    else if token.isLetter then fail .unknownFlag token.size
    else fail (.missing what) token.size

/-- Reads flags to be turned on, from the first one on, up to the token that ends them. -/
def flagsOn : Nat → Token → Flags → Read (Flags × Token)
  | 0, token, flags => return (flags, token)
  | most + 1, token, flags =>
    match token.flag? with
    | none => return (flags, token)
    | some flag => do
      let isText := (← get).isText
      if isText && flag.locale then fail .localeFlag
      if !isText && flag.unicode then fail .unicodeFlag
      let flags := flags.union flag
      let alphabets := [flags.ascii, flags.unicode, flags.locale].count true
      if flag.hasAlphabet && alphabets != 1 then fail .alphabetsTogether
      flagsOn most (← nextFlag "-, : or )" [')', '-', ':']) flags

/-- Reads flags to be turned off, from the first one on. -/
def flagsOff : Nat → Token → Flags → Read Flags
  | 0, _, flags => return flags
  | most + 1, token, flags =>
    match token.flag? with
    | none => return flags
    | some flag => do
      if flag.hasAlphabet then fail .alphabetOff
      flagsOff most (← nextFlag ":" [':']) (flags.union flag)

/-- Reads flags, from the first token on: those for the whole pattern are none, those of a group
come as what it turns on and off. -/
def groupFlags (first : Token) : Read (Option (Flags × Flags)) := do
  let most := (← get).tokens.length + 1
  let (added, stop) ← flagsOn most first {}
  if stop = .char ')' then
    modify fun s => { s with flags := s.flags.union added }
    return none
  if added.template then fail .globalFlagOn 1
  let removed ←
    if stop = .char '-' then flagsOff most (← nextFlag "flag" []) {}
    else pure {}
  if removed.template then fail .globalFlagOff 1
  if added.meets removed then fail .flagOnAndOff 1
  return some (added, removed)

def checkName (name : List Char) : Read Unit := do
  if !isIdentifier name then fail (.badName (String.ofList name)) (codeCount name + 1)

def groupNamed (name : List Char) : Read Nat := do
  match (← get).names.lookup (String.ofList name) with
  | some index => return index
  | none => fail (.unknownName (String.ofList name)) (codeCount name + 1)

def openNumbered (name : Option (List Char)) (start : Nat) (verbose : Bool) : Read Unit := do
  let s ← get
  let index := s.widths.length + 1
  if let some name := name then
    if let some old := s.names.lookup (String.ofList name) then
      fail (.redefinedName (String.ofList name) index old) (codeCount name + 1)
    modify fun s => { s with names := (String.ofList name, index) :: s.names }
  modify fun s => { s with widths := s.widths ++ [none] }
  openFrame (.group (some index) {} {}) start verbose

def skipComment (start : Nat) : List Token → Read Unit
  | [] => failAt .unterminatedComment start
  | token :: rest => do
    discard next
    if token = .char ')' then return else skipComment start rest

/-- The group that a condition asks for, by name or by number. -/
def conditionGroup : Read Nat := do
  let name ← takeName "group name" ')'
  if isIdentifier name then groupNamed name
  else
    match readInteger name with
    | .error _ => fail (.badName (String.ofList name)) (codeCount name + 1)
    | .ok n =>
      if n < 0 then fail (.badName (String.ofList name)) (codeCount name + 1)
      let index := n.toNat
      if index = 0 then fail .badGroupNumber (codeCount name + 1)
      if Nat.pow 2 30 - 1 ≤ index then fail (.invalidReference index) (codeCount name + 1)
      modify fun s =>
        if (s.awaited.lookup index).isSome then s
        else { s with awaited := s.awaited ++ [(index, s.position - codeCount name - 1)] }
      return index

/-- Opens a look around in the direction and of the sense that the tokens say. -/
def openLook (first : Char) (start : Nat) (verbose : Bool) : Read Unit := do
  if first = '<' then
    match ← next with
    | none => fail .unexpectedEnd
    | some token =>
      if token ≠ .char '=' ∧ token ≠ .char '!' then
        fail (.unknownExtension (String.ofList ('<' :: token.text))) (token.size + 2)
      let s ← get
      let outermost := s.limit.isNone
      if outermost then set { s with limit := some (s.widths.length + 1) }
      openFrame (.lookBehind (token = .char '!') outermost) start verbose
  else openFrame (.lookAhead (first = '!')) start verbose

/-- Reads what follows the letter P behind a question mark: a named group or a reference by name. -/
def namedExtension (start : Nat) (verbose : Bool) : Read Unit := do
  match ← next with
  | none => fail .unexpectedEnd
  | some token =>
    if token = .char '<' then
      let name ← takeName "group name" '>'
      checkName name
      openNumbered (some name) start verbose
    else if token = .char '=' then
      let name ← takeName "group name" ')'
      checkName name
      let index ← groupNamed name
      if !(← get).isClosed index then fail .openGroup (codeCount name + 1)
      checkLookBehind index
      append (.reference index)
    else
      fail (.unknownExtension (String.ofList ('P' :: token.text))) (token.size + 2)

/-- Nothing of the pattern has been read but flags for the whole. -/
def State.isAtStart (s : State) : Bool :=
  s.frames.isEmpty && s.level.nodes.isEmpty && s.level.alternatives.isEmpty

/-- Reads flags, and opens the group that they are for, if any. -/
def flagsOrGroup (first : Token) (start : Nat) (verbose : Bool) : Read Unit := do
  let atStart := (← get).isAtStart
  match ← groupFlags first with
  | none => if !atStart then failAt .misplacedFlags start
  | some (added, removed) =>
    openFrame (.group none added removed) start ((verbose || added.verbose) && !removed.verbose)

/-- Reads what follows a question mark behind an opening parenthesis. -/
def extension (start : Nat) (verbose : Bool) : Read Unit := do
  match ← next with
  | none => fail .unexpectedEnd
  | some token =>
    let unknown : Read Unit :=
      fail (.unknownExtension (String.ofList token.text)) (token.size + 1)
    match token with
    | .char c =>
      if c = 'P' then namedExtension start verbose
      else if c = ':' then openFrame (.group none {} {}) start verbose
      else if c = '#' then skipComment start (← get).tokens
      else if c = '=' ∨ c = '!' ∨ c = '<' then openLook c start verbose
      else if c = '(' then
        let index ← conditionGroup
        checkLookBehind index
        openFrame (.condition index) start verbose
      else if c = '>' then openFrame .atomic start verbose
      else if c = '-' ∨ (flagOf? c).isSome then flagsOrGroup token start verbose
      else unknown
    | _ => unknown

/-- Reads what an opening parenthesis, already taken, begins. -/
def parenthesis : Read Unit := do
  let s ← get
  let start := s.position - 1
  let verbose := s.isVerbose
  if ← accept '?' then extension start verbose
  else openNumbered none start verbose

/-- Goes on to the next alternative, whose bar has not been taken yet. A condition has two. -/
def nextAlternative : Read Unit := do
  let s ← get
  if let { opening := .condition _, .. } :: _ := s.frames then
    if !s.level.alternatives.isEmpty then fail .tooManyBranches
  discard next
  modify fun s =>
    { s with level :=
        { nodes := [], alternatives := s.level.sequence :: s.level.alternatives } }

def Frame.node (frame : Frame) (widths : List (Option (Nat × Nat))) (level : Level) : Node :=
  match frame.opening with
  | .group index added removed => .group index added removed level.close
  | .atomic => .atomic level.close
  | .lookAhead negated => .lookAhead negated level.close
  | .lookBehind negated _ =>
    .lookBehind negated (sequenceWidth widths level.close) level.close
  | .condition index =>
    match level.alternatives with
    | [] => .condition index level.sequence []
    | yes :: _ => .condition index yes level.sequence

/-- Closes a frame: its node goes to the level around, and a numbered group has its width. -/
def closeFrame (frame : Frame) (outerFrames : List Frame) : Read Unit := do
  discard next
  modify fun s =>
    let node := frame.node s.widths s.level
    let widths := match frame.opening with
      | .group (some index) _ _ => s.widths.set (index - 1) (some (node.width s.widths))
      | _ => s.widths
    let limit := match frame.opening with
      | .lookBehind _ true => none
      | _ => s.limit
    { s with
      frames := outerFrames, widths, limit,
      level := { frame.outer with nodes := node :: frame.outer.nodes } }

end FluentBuilder.Pattern
