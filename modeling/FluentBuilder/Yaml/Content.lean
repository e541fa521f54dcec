import FluentBuilder.Value.Knot
import FluentBuilder.Value.SlotOrder
import FluentBuilder.Yaml.Node
import FluentBuilder.Yaml.Scalar

/-!
The value of a document. The value of a node is made once. A collection is a link at first and is
filled when its turn comes: the collections found while others are filled come after them. Each pair
of an ordered mapping has a cell of its own behind those of the nodes. A merge
key puts the entries of other mappings in front of those of its own; it is followed when its mapping
is filled, and it is gone then for all who look at that mapping later.
-/

namespace FluentBuilder.Yaml

/-- The work on a document: its nodes, the values that have been made, the collections that have been
filled, and those whose turn comes next, the last one first. -/
structure Work where
  nodes : Nodes
  made : Array (Option Value)
  cells : Array Value
  due : List Nat := []

/-- A step of the work. -/
abbrev Make := StateT Work (Except Flaw)

namespace Make

def refuseNode {α : Type} : Make α := throw .malformed

def node (number : Nat) : Make Node := do
  match (← get).nodes[number]? with
  | some node => return node
  | none => refuseNode

def change (number : Nat) (node : Node) : Make Unit :=
  modify fun w => { w with nodes := w.nodes.setIfInBounds number node }

end Make

open Make

/-- The kind is filled when its turn comes; all others are read at once. -/
def Kind.isCollection : Kind → Bool
  | .sequence | .mapping | .set | .pairs => true
  | _ => false

/-- The text of a scalar, or of the first default key of a mapping. -/
def textOf (nodes : Nodes) : (depth : Nat) → (number : Nat) → Option (List Char)
  | 0, _ => none
  | depth + 1, number =>
    match nodes[number]?.map Node.shape with
    | some (.scalar text) => some text
    | some (.mapping entries) =>
      (entries.find? fun (key, _) => (nodes[key]?.map Node.kind) == some .defaultKey).bind
        fun (_, value) => textOf nodes depth value
    | _ => none

def Work.text? (w : Work) (number : Nat) : Option (List Char) :=
  textOf w.nodes (w.nodes.size + 1) number

def addCell (v : Value) : Make Value := do
  let cell := (← get).cells.size
  modify fun w => { w with cells := w.cells.push v }
  return .link cell

/-- Reads the value of a node that is no collection. Only a scalar can be a date or a moment. -/
def scalarValue (number : Nat) (node : Node) : Make Value := do
  match (← get).text? number, node with
  | none, _ => refuseNode
  | some _, { kind := .timestamp, shape := .mapping _ } => throw (.content .mappedMoment)
  | some text, _ => (readScalar node.kind text : Except Flaw Value)

/-- The value of a node. A collection is a link that remains to be filled. -/
def make (number : Nat) : Make Value := do
  if let some (some value) := (← get).made[number]? then return value
  let node ← node number
  let value ←
    if node.kind.isCollection then
      modify fun w => { w with due := number :: w.due }
      pure (.link number)
    else scalarValue number node
  modify fun w => { w with made := w.made.setIfInBounds number (some value) }
  return value

def entriesAt (number : Nat) : Make (List (Nat × Nat)) := do
  match (← node number).shape with
  | .mapping entries => return entries
  | _ => refuseNode

/-- The entries that the value of a merge key gives, when mappings are flattened in the given way:
those of a mapping, or those of the mappings of a sequence, the last one first. -/
def mergedEntries (flattened : Nat → Make Unit) (number : Nat) : Make (List (Nat × Nat)) := do
  let entriesOf (number : Nat) : Make (List (Nat × Nat)) := do
    discard <| entriesAt number
    flattened number
    entriesAt number
  match (← node number).shape with
  | .mapping _ => entriesOf number
  | .sequence items => return (← items.mapM entriesOf).reverse.flatten
  | .scalar _ => refuseNode

/-- Follows the merge keys of a mapping from the entry at `index` on; `merged` are the entries that
they have given so far. A default key becomes a text. -/
def flattenFrom : (fuel : Nat) → (number index : Nat) → (merged : List (Nat × Nat)) → Make Unit
  | 0, _, _, _ => refuseNode
  | fuel + 1, number, index, merged => do
    let mapping ← node number
    let entries ← entriesAt number
    match entries[index]? with
    | none =>
      if !merged.isEmpty then change number { mapping with shape := .mapping (merged ++ entries) }
    | some (key, value) =>
      let keyNode ← node key
      if keyNode.kind == .merge then
        change number { mapping with shape := .mapping (entries.eraseIdx index) }
        let more ← mergedEntries (fun other => flattenFrom fuel other 0 []) value
        flattenFrom fuel number index (merged ++ more)
      else
        if keyNode.kind == .defaultKey then change key { keyNode with kind := .text }
        flattenFrom fuel number (index + 1) merged

/-- More steps than following merge keys takes. -/
def mergeSteps : Nat := Nat.pow 2 62

/-- A key with what tells it from other keys that are not equal to themselves: all NaN of the usual
spelling are one. -/
structure Key where
  value : Value
  identity : Option Nat

def Key.same (a b : Key) : Bool :=
  a.value.equal b.value ||
    match a.value, b.value with
    | .float .nan, .float .nan => a.identity == b.identity
    | _, _ => false

def makeKey (number : Nat) : Make Key := do
  match ← make number with
  | .link _ => refuseNode
  | value =>
    let isUsual := ((← get).text? number).any isNaNWord
    return { value, identity := if isUsual then none else some number }

/-- Puts an entry among others: a key that is there already keeps its place and its spelling. -/
def putEntry (key : Key) (value : Value) : List (Key × Value) → List (Key × Value)
  | [] => [(key, value)]
  | (k, v) :: rest => if k.same key then (k, value) :: rest else (k, v) :: putEntry key value rest

def makeEntries (number : Nat) : Make (List (Value × Value)) := do
  discard <| entriesAt number
  flattenFrom mergeSteps number 0 []
  let pairs ← (← entriesAt number).mapM fun (key, value) => do
    let key ← makeKey key
    return (key, ← make value)
  return (pairs.foldl (fun dict (key, value) => putEntry key value dict) []).map
    fun (key, value) => (key.value, value)

def makePair (number : Nat) : Make Value := do
  match ← entriesAt number with
  | [(key, value)] => addCell (.tuple [← make key, ← make value])
  | _ => refuseNode

def itemsAt (number : Nat) : Make (List Nat) := do
  match (← node number).shape with
  | .sequence items => return items
  | _ => refuseNode

def makeCollection (number : Nat) : Make Value := do
  match (← node number).kind with
  | .sequence => return .list (← (← itemsAt number).mapM make)
  | .pairs => return .list (← (← itemsAt number).mapM makePair)
  | .set => return .set (Value.inSlotOrder ((← makeEntries number).map (·.1)))
  | _ => return .dict (← makeEntries number)

def fill (number : Nat) : Make Unit := do
  let value ← makeCollection number
  modify fun w => { w with cells := w.cells.setIfInBounds number value }

/-- Fills the collections whose turn it is, and those that are found in turn, in so many rounds at
most. -/
def fillAll : (rounds : Nat) → Make Unit
  | 0 => return
  | rounds + 1 => do
    let due := (← get).due.reverse
    if !due.isEmpty then
      modify fun w => { w with due := [] }
      due.forM fill
      fillAll rounds

/-- The value of a document. Each node is found once at most, so there are no more rounds than
nodes. -/
def Node.Document.value (d : Node.Document) : Except Flaw Value := do
  let start : Work :=
    { nodes := d.nodes
      made := Array.replicate d.nodes.size none
      cells := Array.replicate d.nodes.size .null }
  let (value, afterRoot) ← (make d.root).run start
  let (_, done) ← (fillAll (d.nodes.size + 1)).run afterRoot
  match value with
  | .link cell => return .ofCells done.cells cell
  | value => return value

end FluentBuilder.Yaml
