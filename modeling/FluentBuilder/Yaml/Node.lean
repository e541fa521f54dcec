import FluentBuilder.Yaml.Kind
import FluentBuilder.Yaml.Layout

/-!
Nodes of a document: scalars, sequences and mappings, each of a kind. Nodes refer to one another by
their numbers. An alias is the number of the node that its anchor marks, so that a collection can
hold itself.
-/

namespace FluentBuilder.Yaml

inductive Shape
  | scalar (text : List Char)
  | sequence (items : List Nat)
  | mapping (entries : List (Nat × Nat))

structure Node where
  kind : Kind
  shape : Shape

/-- The nodes of a document by their numbers. -/
abbrev Nodes := Array Node

namespace Node

/-- The node of a place that is left empty. -/
def empty : Node := { kind := .null, shape := .scalar [] }

/-- What is known while nodes are read: the tokens ahead, whether a fault ends them, the handles of
tags, the nodes so far, and the anchors. -/
structure Reading where
  tokens : List Token
  isCut : Bool
  handles : List (String × String) := []
  nodes : Nodes := #[]
  anchors : List (String × Nat) := []

/-- Why no node is read: the tokens form none, or a fault has ended them. -/
inductive Stop
  | malformed
  | cut

abbrev Reader := StateT Reading (Except Stop)

def refuseText {α : Type} : Reader α := throw .malformed

def peek : Reader (Option Token) := do
  let r ← get
  if r.tokens.isEmpty && r.isCut then throw .cut
  return r.tokens.head?

def skip : Reader Unit := modify fun r => { r with tokens := r.tokens.drop 1 }

def atAny (ts : List Token) : Reader Bool :=
  return (← peek).any (ts.contains ·)

/-- Passes the next token if it is the given one. -/
def take (t : Token) : Reader Bool := do
  if ← atAny [t] then
    skip
    return true
  else return false

def expect (t : Token) : Reader Unit := do
  if !(← take t) then refuseText

def add (node : Node) : Reader Nat := do
  let number := (← get).nodes.size
  modify fun r => { r with nodes := r.nodes.push node }
  return number

def mark (anchor : Option String) (number : Nat) : Reader Unit := do
  if let some name := anchor then
    modify fun r => { r with anchors := (name, number) :: r.anchors }

def addScalar (anchor : Option String) (kind : Kind) (text : List Char) : Reader Nat := do
  let number ← add { kind, shape := .scalar text }
  mark anchor number
  return number

/-- Adds a collection. It has its number and its anchor before its parts are read. -/
def addCollection (anchor : Option String) (kind : Kind) (parts : Reader Shape) : Reader Nat := do
  let number ← add { kind, shape := .sequence [] }
  mark anchor number
  let shape ← parts
  modify fun r => { r with nodes := r.nodes.setIfInBounds number { kind, shape } }
  return number

/-- An anchor that marks a node already cannot mark another one. -/
def checkAnchor (anchor : Option String) : Reader Unit := do
  if let some name := anchor then
    if ((← get).anchors.lookup name).isSome then refuseText

def marked (name : String) : Reader Nat := do
  match (← get).anchors.lookup name with
  | some number => return number
  | none => refuseText

def takeAnchor : Reader (Option String) := do
  match ← peek with
  | some (.anchor name) =>
    skip
    return some name
  | _ => return none

def takeTag : Reader (Option (Option String × String)) := do
  match ← peek with
  | some (.tag handle suffix) =>
    skip
    return some (handle, suffix)
  | _ => return none

def fullTag : Option String × String → Reader String
  | (none, suffix) => return suffix
  | (some handle, suffix) => do
    match (← get).handles.lookup handle with
    | some stem => return stem ++ suffix
    | none => refuseText

/-- Reads an anchor and a tag in either order. A handle is looked up when both have been read. -/
def takeProperties : Reader (Option String × Option String) := do
  let first ← takeAnchor
  let tag ← takeTag
  let second ← if first.isNone && tag.isSome then takeAnchor else pure none
  return (first.or second, ← tag.mapM fullTag)

/-- The kind that a tag names; a lone exclamation mark names none. -/
def kindOr (tag : Option String) (otherwise : Kind) : Kind :=
  match tag with
  | none | some "!" => otherwise
  | some tag => .ofTag tag

/-- The kind of a scalar: a plain one without a tag, or one with a lone exclamation mark, has the
kind that its spelling shows. -/
def scalarKind (tag : Option String) (text : List Char) (plain : Bool) : Kind :=
  match tag with
  | none => if plain then .ofPlain text else .text
  | some "!" => .ofPlain text
  | some tag => .ofTag tag

mutual

/-- Reads a node. Blocks are looked for if `block`, hyphens without deeper indentation if
`loose`. -/
def read (block loose : Bool) : Nat → Reader Nat
  | 0 => refuseText
  | steps + 1 => do
    if let some (.alias name) := ← peek then
      skip
      return ← marked name
    let (anchor, tag) ← takeProperties
    let next ← peek
    checkAnchor anchor
    let listKind := kindOr tag .sequence
    let mapKind := kindOr tag .mapping
    match next with
    | some .item =>
      if loose then addCollection anchor listKind (.sequence <$> looseItems steps)
      else property anchor tag
    | some (.scalar text plain) =>
      skip
      addScalar anchor (scalarKind tag text plain) text
    | some .openBracket =>
      skip
      addCollection anchor listKind (.sequence <$> flowItems true steps)
    | some .openBrace =>
      skip
      addCollection anchor mapKind (.mapping <$> flowEntries true steps)
    | some .blockSequence =>
      if block then
        skip
        addCollection anchor listKind (.sequence <$> blockItems steps)
      else property anchor tag
    | some .blockMapping =>
      if block then
        skip
        addCollection anchor mapKind (.mapping <$> blockEntries steps)
      else property anchor tag
    | _ => property anchor tag

/-- The node of an anchor or a tag with nothing behind it. -/
def property (anchor tag : Option String) : Reader Nat :=
  if anchor.isSome || tag.isSome then addScalar anchor (scalarKind tag [] true) []
  else refuseText

/-- Reads a node, or the empty node where one of the given tokens stands. -/
def readUnless (ts : List Token) (block loose : Bool) : Nat → Reader Nat
  | 0 => refuseText
  | steps + 1 => do
    if ← atAny ts then add empty else read block loose steps

def blockItems : Nat → Reader (List Nat)
  | 0 => refuseText
  | steps + 1 => do
    if ← take .item then
      let node ← readUnless [.item, .blockEnd] true false steps
      return node :: (← blockItems steps)
    else
      expect .blockEnd
      return []

/-- Reads items that have no block of their own. -/
def looseItems : Nat → Reader (List Nat)
  | 0 => refuseText
  | steps + 1 => do
    if ← take .item then
      let node ← readUnless [.item, .key, .value, .blockEnd] true false steps
      return node :: (← looseItems steps)
    else return []

def blockEntries : Nat → Reader (List (Nat × Nat))
  | 0 => refuseText
  | steps + 1 => do
    if ← take .blockEnd then return []
    expect .key
    let node ← readUnless [.key, .value, .blockEnd] true true steps
    let value ← if ← take .value then readUnless [.key, .value, .blockEnd] true true steps
      else add empty
    return (node, value) :: (← blockEntries steps)

/-- Reads the items between brackets; an item may be a single entry. -/
def flowItems (first : Bool) : Nat → Reader (List Nat)
  | 0 => refuseText
  | steps + 1 => do
    if ← take .closeBracket then return []
    if !first then expect .comma
    if ← take .key then
      let node ← readUnless [.value, .comma, .closeBracket] false false steps
      let value ← if ← take .value then readUnless [.comma, .closeBracket] false false steps
        else add empty
      let entry ← add { kind := .mapping, shape := .mapping [(node, value)] }
      return entry :: (← flowItems false steps)
    else if ← take .closeBracket then return []
    else
      let node ← read false false steps
      return node :: (← flowItems false steps)

/-- Reads the entries between braces; a node by itself is a key. -/
def flowEntries (first : Bool) : Nat → Reader (List (Nat × Nat))
  | 0 => refuseText
  | steps + 1 => do
    if ← take .closeBrace then return []
    if !first then expect .comma
    if ← take .key then
      let node ← readUnless [.value, .comma, .closeBrace] false false steps
      let value ← if ← take .value then readUnless [.comma, .closeBrace] false false steps
        else add empty
      return (node, value) :: (← flowEntries false steps)
    else if ← take .closeBrace then return []
    else
      let node ← read false false steps
      return (node, ← add empty) :: (← flowEntries false steps)

end

def commonHandles : List (String × String) := [("!", "!"), ("!!", coreStem)]

/-- Reads directives: at most one version, which must be of the first edition, and handles, each at
most once. -/
def directives (versioned : Bool) : List Token → List (String × String) →
    Except Stop (List (String × String) × List Token)
  | .version major :: ts, handles =>
    if versioned ∨ major ≠ 1 then .error .malformed else directives true ts handles
  | .handle handle stem :: ts, handles =>
    if (handles.lookup handle).isSome then .error .malformed
    else directives versioned ts ((handle, stem) :: handles)
  | .remark :: ts, handles => directives versioned ts handles
  | ts, handles => .ok (handles, ts)

def takeDirectives : Reader (List (String × String)) := do
  let (handles, tokens) ← (directives false (← get).tokens [] : Except Stop _)
  modify fun r => { r with tokens }
  return handles

def skipEnds : Reader Unit :=
  modify fun r => { r with tokens := r.tokens.dropWhile (· = .documentEnd) }

/-- A token that shows that a document has no content. -/
def endsContent : Option Token → Bool
  | none | some (.version _) | some (.handle ..) | some .remark | some .documentStart
  | some .documentEnd => true
  | _ => false

/-- Reads the content of a document and gives the number of its root. -/
def content (handles : List (String × String)) : Reader Nat := do
  modify fun r => { r with handles }
  read true false (8 * (← get).tokens.length + 8)

def explicitDocument : Reader Nat := do
  let handles ← takeDirectives
  expect .documentStart
  if endsContent (← peek) then add empty else content (handles ++ commonHandles)

def onlyDocument? : Reader (Option Nat) := do
  match ← peek with
  | none => return none
  | some first =>
    let root ←
      if endsContent (some first) && first ≠ .documentEnd then explicitDocument
      else content commonHandles
    skipEnds
    if (← peek).isSome then
      -- What is behind the document is looked at as far as a start, before it is refused.
      discard takeDirectives
      discard peek
      refuseText
    return some root

structure Document where
  nodes : Nodes
  root : Nat

/-- The only document of a text; none if the text holds no document. -/
def ofTokens? (ts : Tokens) : Except Flaw (Option Document) :=
  match onlyDocument?.run { tokens := ts.tokens, isCut := ts.fault.isSome } with
  | .ok (root, after) => .ok (root.map fun root => { nodes := after.nodes, root })
  | .error .malformed => .error .malformed
  | .error .cut => .error ((ts.fault.map .content).getD .malformed)

end Node

end FluentBuilder.Yaml
