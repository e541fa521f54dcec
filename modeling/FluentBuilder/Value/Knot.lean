import FluentBuilder.Value.Basic

/-!
Knots of collections that hold one another. A knot is opened one collection at a time: where it
links to another one, the knot is entered there.
-/

namespace FluentBuilder.Value

mutual

/-- The value with other values in place of its links. -/
def relink (target : Nat → Value) : Value → Value
  | .link cell => target cell
  | .list items => .list (relinkItems target items)
  | .tuple items => .tuple (relinkItems target items)
  | .dict entries => .dict (relinkEntries target entries)
  | v => v

def relinkItems (target : Nat → Value) : List Value → List Value
  | [] => []
  | v :: rest => relink target v :: relinkItems target rest

/-- The entries with other values in place of their links; keys have none. -/
def relinkEntries (target : Nat → Value) : List (Value × Value) → List (Value × Value)
  | [] => []
  | (k, v) :: rest => (k, relink target v) :: relinkEntries target rest

end

/-- The collection with which a knot starts; any other value is itself. -/
def opened : Value → Value
  | .knot cells start => relink (.knot cells) (cells.getD start .null)
  | v => v

mutual

def links : Value → List Nat
  | .link cell => [cell]
  | .list items | .tuple items => linksIn items
  | .dict entries => linksOf entries
  | _ => []

def linksIn : List Value → List Nat
  | [] => []
  | v :: rest => links v ++ linksIn rest

def linksOf : List (Value × Value) → List Nat
  | [] => []
  | (_, v) :: rest => links v ++ linksOf rest

end

/-- The cells that a walk from the found ones along links finds, in so many rounds at most. -/
def reachFrom (cells : List Value) : (rounds : Nat) → (found : List Nat) → List Nat
  | 0, found => found
  | rounds + 1, found =>
    let more := (found ++ found.flatMap fun cell => (cells.getD cell .null).links).eraseDups
    if more.length = found.length then found else reachFrom cells rounds more

/-- The cells that a knot is made of: its first one, and all that links lead to. -/
def reach (cells : List Value) (start : Nat) : List Nat := reachFrom cells cells.length [start]

/-- The value with trees that are known in place of the links to them. -/
def graft (trees : Array (Option Value)) (v : Value) : Value :=
  relink (fun cell => (trees.getD cell none).getD (.link cell)) v

def isRooted (trees : Array (Option Value)) (v : Value) : Bool :=
  v.links.all fun cell => (trees.getD cell none).isSome

/-- Adds the trees among the first `count` cells, the last one first. -/
def growFrom (cells : Array Value) : (count : Nat) → Array (Option Value) → Array (Option Value)
  | 0, trees => trees
  | cell + 1, trees =>
    let v := cells.getD cell .null
    growFrom cells cell <|
      if (trees.getD cell none).isNone && v.isRooted trees then
        trees.setIfInBounds cell (some (v.graft trees))
      else trees

def treeCount (trees : Array (Option Value)) : Nat := trees.toList.countP (·.isSome)

/-- Adds trees in so many rounds at most, until there are no more. -/
def growTrees (cells : Array Value) :
    (rounds : Nat) → Array (Option Value) → Array (Option Value)
  | 0, trees => trees
  | rounds + 1, trees =>
    let grown := growFrom cells cells.size trees
    if treeCount grown = treeCount trees then trees else growTrees cells rounds grown

/-- The value of a cell: a tree if no path from it comes back, otherwise a knot. Each round adds a
tree at least, so there are no more rounds than cells. -/
def ofCells (cells : Array Value) (start : Nat) : Value :=
  let trees := growTrees cells cells.size (Array.replicate cells.size none)
  (trees.getD start none).getD (.knot (cells.toList.map (·.graft trees)) start)

end FluentBuilder.Value
