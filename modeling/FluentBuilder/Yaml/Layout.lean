import FluentBuilder.Yaml.BlockText
import FluentBuilder.Yaml.FlowText
import FluentBuilder.Yaml.Token

/-!
The tokens of a YAML text. Indentation opens and closes blocks; a text, alias or bracket is found to
be a key only when the colon behind it is read, and then the tokens for a key are put in front of
it.
-/

namespace FluentBuilder.Yaml

/-- Where a key may have begun. A required key cannot turn out to be none. -/
structure PossibleKey where
  position : Nat
  required : Bool
  place : Located

/-- The text has moved on too far: a key stands on one line and is not too long. -/
def PossibleKey.isStale (k : PossibleKey) (here : Located) : Bool :=
  k.place.line != here.line || 1024 < here.index - k.place.index

/-- The tokens read so far, the last one first, with the open blocks and brackets. Each open bracket
has its own possible key. -/
structure Layout where
  tokens : List Token := []
  count : Nat := 0
  indent : Int := -1
  outerIndents : List Int := []
  keyAllowed : Bool := true
  key : Option PossibleKey := none
  outerKeys : List (Option PossibleKey) := []

namespace Layout

def inFlow (l : Layout) : Bool := !l.outerKeys.isEmpty

def push (l : Layout) (t : Token) : Layout :=
  { l with tokens := t :: l.tokens, count := l.count + 1 }

def insertAt (l : Layout) (position : Nat) (ts : List Token) : Layout :=
  let behind := l.count - position
  { l with tokens := l.tokens.take behind ++ ts.reverse ++ l.tokens.drop behind,
           count := l.count + ts.length }

def allowKey (l : Layout) (allowed : Bool) : Layout := { l with keyAllowed := allowed }

/-- Gives up a possible key; a required one cannot be given up. -/
def dropPossible (key : Option PossibleKey) : Except Malformed (Option PossibleKey) :=
  if key.any (·.required) then .error .malformed else .ok none

def dropKey (l : Layout) : Except Malformed Layout :=
  (dropPossible l.key).map fun key => { l with key }

def dropStale (here : Located) (key : Option PossibleKey) : Except Malformed (Option PossibleKey) :=
  if key.any (·.isStale here) then dropPossible key else .ok key

def dropStaleKeys (l : Layout) (here : Located) : Except Malformed Layout := do
  let key ← dropStale here l.key
  let outerKeys ← l.outerKeys.mapM (dropStale here)
  return { l with key, outerKeys }

def saveKey (l : Layout) (place : Located) : Except Malformed Layout :=
  if l.keyAllowed then do
    let l ← l.dropKey
    let required := !l.inFlow && l.indent == place.column
    return { l with key := some { position := l.count, required, place } }
  else .ok l

/-- Closes the blocks that are indented deeper than a column. -/
def closeBlocks (l : Layout) (column : Int) : List Int → Layout
  | [] => l
  | outer :: rest =>
    if column < l.indent then
      closeBlocks { l.push .blockEnd with indent := outer, outerIndents := rest } column rest
    else l

/-- Closes the blocks that are indented deeper than a column, outside brackets. -/
def unwind (l : Layout) (column : Int) : Layout :=
  if l.inFlow then l else l.closeBlocks column l.outerIndents

/-- The layout inside a block at a column, if that is deeper than the present indentation. -/
def deepen? (l : Layout) (column : Nat) : Option Layout :=
  if l.indent < column then
    some { l with indent := column, outerIndents := l.indent :: l.outerIndents }
  else none

def openBlock (l : Layout) (column : Nat) (t : Token) : Layout :=
  match l.deepen? column with
  | some l => l.push t
  | none => l

/-- What opens or continues a block must stand where a key is allowed. -/
def requireKeyAllowed (l : Layout) : Except Malformed Unit :=
  if l.inFlow || l.keyAllowed then .ok () else .error .malformed

/-- Adds a token that closes all blocks. -/
def pushAtMargin (l : Layout) (t : Token) : Except Malformed Layout := do
  let l ← (l.unwind (-1)).dropKey
  return (l.allowKey false).push t

def openFlow (l : Layout) (place : Located) (t : Token) : Except Malformed Layout := do
  let l ← l.saveKey place
  return { (l.allowKey true).push t with key := none, outerKeys := l.key :: l.outerKeys }

def closeFlow (l : Layout) (t : Token) : Except Malformed Layout := do
  let l ← l.dropKey
  let l := (l.allowKey false).push t
  match l.outerKeys with
  | [] => return l
  | key :: outerKeys => return { l with key, outerKeys }

def pushComma (l : Layout) : Except Malformed Layout := do
  let l ← l.dropKey
  return (l.allowKey true).push .comma

/-- Adds a hyphen, which opens a sequence where it is indented deeper. -/
def pushItem (l : Layout) (column : Nat) : Except Malformed Layout := do
  l.requireKeyAllowed
  let l := if l.inFlow then l else l.openBlock column .blockSequence
  let l ← l.dropKey
  return (l.allowKey true).push .item

/-- Adds a question mark, which opens a mapping where it is indented deeper. -/
def pushKey (l : Layout) (column : Nat) : Except Malformed Layout := do
  l.requireKeyAllowed
  let l := if l.inFlow then l else l.openBlock column .blockMapping
  let l ← l.dropKey
  return (l.allowKey (!l.inFlow)).push .key

/-- Turns what began at a possible key into a key. -/
def confirmKey (l : Layout) (k : PossibleKey) : Layout :=
  let opened := if l.inFlow then none else l.deepen? k.place.column
  let l := match opened with
    | some l => l.insertAt k.position [.blockMapping, .key]
    | none => l.insertAt k.position [.key]
  { l with key := none, keyAllowed := false }

/-- Adds a colon: behind a possible key, or behind a key that has been marked or is empty. -/
def pushValue (l : Layout) (column : Nat) : Except Malformed Layout :=
  match l.key with
  | some k => .ok ((l.confirmKey k).push .value)
  | none => do
    l.requireKeyAllowed
    let l := if l.inFlow then l else l.openBlock column .blockMapping
    let l ← (l.allowKey (!l.inFlow)).dropKey
    return l.push .value

/-- Adds a token with which a key may begin. -/
def pushContent (l : Layout) (place : Located) (t : Token) : Except Malformed Layout := do
  let l ← l.saveKey place
  return (l.allowKey false).push t

end Layout

/-- Skips blanks, comments and line breaks; tells whether a line break was among them. -/
def skipToToken : Rest → Bool × Rest
  | [] => (false, [])
  | l :: rest =>
    if l.char = ' ' ∨ (l.index = 0 ∧ l.char = '\uFEFF') then skipToToken rest
    else if isBreak l.char then
      let (_, rest) := skipToToken rest
      (true, rest)
    else if l.char = '#' then skipCommented rest
    else (false, l :: rest)
where
  /-- Skips the rest of a comment and what follows. -/
  skipCommented : Rest → Bool × Rest
    | [] => (false, [])
    | l :: rest =>
      if l.char = endMark then (false, l :: rest)
      else if isBreak l.char then
        let (_, rest) := skipToToken rest
        (true, rest)
      else skipCommented rest

/-- The characters with which no plain text begins. -/
def indicators : List Char :=
  ['-', '?', ':', ',', '[', ']', '\x7b', '\x7d', '#', '&', '*', '!', '|', '>', '\'', '"', '%',
    '@', '\x60']

/-- A plain text begins here: with a character that is no sign, or with a sign that has no gap
behind it and cannot be one. -/
def beginsPlain (inFlow : Bool) (s : Rest) : Bool :=
  let c := s.peek
  !(isGap c || indicators.contains c) ||
    !isGap (s.peekAt 1) && (c = '-' || !inFlow && (c = '?' || c = ':'))

/-- Reads the token at the start of the text, unless it begins with a quote. -/
def readUnquoted (l : Layout) (place : Located) (s : Rest) : Except Malformed (Layout × Rest) :=
  let c := place.char
  let gapBehind := isGap (s.peekAt 1)
  if c = '%' ∧ place.column = 0 then do
    let (token, rest) ← readDirective (s.skip 1)
    return (← l.pushAtMargin token, ← skipRestOfLine rest)
  else if place.column = 0 ∧ isSeparator s then do
    return (← l.pushAtMargin (if c = '-' then .documentStart else .documentEnd), s.skip 3)
  else if c = '[' then (l.openFlow place .openBracket).map (·, s.skip 1)
  else if c = '\x7b' then (l.openFlow place .openBrace).map (·, s.skip 1)
  else if c = ']' then (l.closeFlow .closeBracket).map (·, s.skip 1)
  else if c = '\x7d' then (l.closeFlow .closeBrace).map (·, s.skip 1)
  else if c = ',' then l.pushComma.map (·, s.skip 1)
  else if c = '-' ∧ gapBehind then (l.pushItem place.column).map (·, s.skip 1)
  else if c = '?' ∧ (l.inFlow ∨ gapBehind) then (l.pushKey place.column).map (·, s.skip 1)
  else if c = ':' ∧ (l.inFlow ∨ gapBehind) then (l.pushValue place.column).map (·, s.skip 1)
  else if c = '*' then do
    let (name, rest) ← readName (s.skip 1)
    return (← l.pushContent place (.alias name), rest)
  else if c = '&' then do
    let (name, rest) ← readName (s.skip 1)
    return (← l.pushContent place (.anchor name), rest)
  else if c = '!' then do
    let (token, rest) ← readTag s
    return (← l.pushContent place token, rest)
  else if (c = '|' ∨ c = '>') ∧ !l.inFlow then do
    let (text, rest) ← readBlock (c = '>') l.indent (s.skip 1)
    let l ← (l.allowKey true).dropKey
    return (l.push (.scalar text false), rest)
  else if beginsPlain l.inFlow s then do
    let plain := readPlain l.inFlow (l.indent + 1) s
    let l ← l.pushContent place (.scalar plain.text true)
    return (l.allowKey plain.crossesLine, plain.rest)
  else .error .malformed

def readToken (l : Layout) (place : Located) (s : Rest) : Except Flaw (Layout × Rest) :=
  if place.char = '"' ∨ place.char = '\'' then do
    let (text, rest) ← readQuoted place.char (s.skip 1)
    return (← l.pushContent place (.scalar text false), rest)
  else liftM (readUnquoted l place s)

/-- The tokens of a text in order. Where a fault stands in the text, they end before it. -/
structure Tokens where
  tokens : List Token
  fault : Option ContentFault := none

/-- The tokens that are known when the text has been read up to a place: those before the first one
that can still turn out to be a key. -/
def Layout.known (l : Layout) (here : Rest) : List Token :=
  let isOpen (k : PossibleKey) : Bool := here.head?.any fun place => !k.isStale place
  let keys := ((l.key :: l.outerKeys).filterMap id).filter isOpen
  l.tokens.reverse.take (keys.foldl (fun least k => min least k.position) l.count)

/-- Reads tokens up to the end of the text. They are asked for one by one, so that a fault ends them
only when all that is known before it has been given out. -/
def tokensFrom (l : Layout) (s : Rest) : Nat → Except Malformed Tokens
  | 0 => .error .malformed
  | steps + 1 => do
    let known := l.known s
    let (crossed, rest) := skipToToken s
    let l := if crossed && !l.inFlow then l.allowKey true else l
    match rest with
    | [] => throw .malformed
    | place :: _ =>
      let l ← l.dropStaleKeys place
      let l := l.unwind place.column
      if place.char = endMark then
        let l ← (l.unwind (-1)).dropKey
        return { tokens := l.tokens.reverse }
      else
        match readToken l place rest with
        | .ok (l, rest) => tokensFrom l rest steps
        | .error .malformed => throw .malformed
        | .error (.content fault) => return { tokens := known, fault := some fault }

def isTextChar (c : Char) : Bool :=
  let n := c.toNat
  n = 9 || n = 10 || n = 13 || (32 ≤ n && n ≤ 126) || n = 0x85 || (0xA0 ≤ n && n ≤ 0xD7FF) ||
    (0xE000 ≤ n && n ≤ 0xFFFD) || 0x10000 ≤ n

def tokensOf (cs : List Char) : Except Malformed Tokens :=
  if cs.all isTextChar then
    let s := locate cs
    tokensFrom {} s s.length
  else .error .malformed

end FluentBuilder.Yaml
