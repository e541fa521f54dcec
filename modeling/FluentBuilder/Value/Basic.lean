import FluentBuilder.Number.Quantity
import FluentBuilder.Text.Half
import FluentBuilder.Value.Moment

/-!
The values that documents, constraints and builders hold: a document format's data, and exact
numbers. A mapping keeps its entries in the order of insertion and may have keys of any kind. Lists
and mappings that hold one another are a knot: its cells are the collections, and a link in a cell
stands for another one.
-/

namespace FluentBuilder

open Number

inductive Value
  | null
  | bool (b : Bool)
  | int (n : Int)
  | float (x : Binary64)
  | decimal (d : Decimal)
  | fraction (q : Rat)
  | text (s : String)
  | bytes (bytes : List UInt8)
  | date (d : Date)
  | moment (m : Moment)
  | list (items : List Value)
  | tuple (items : List Value)
  | set (items : List Value)
  | dict (entries : List (Value × Value))
  | knot (cells : List Value) (start : Nat)
  | link (cell : Nat)
  deriving Inhabited

namespace Value

/-- The place of a number in the exact order; truth values count as 0 and 1. -/
def extended? : Value → Option Extended
  | .bool b => some (.finite (.ofInt (if b then 1 else 0)))
  | .int n => some (.finite (.ofInt n))
  | .float x => x.extended?
  | .decimal d => d.extended?
  | .fraction q => some (.finite (.ofRat q))
  | _ => none

/-- A number of some kind; a truth value is none. -/
def isNumber : Value → Bool
  | .int _ | .float _ | .decimal _ | .fraction _ => true
  | _ => false

def isComparable : Value → Bool
  | .bool _ => true
  | v => v.isNumber

/-- How many characters, bytes, items or entries a value outside of knots has. -/
def ownSize? : Value → Option Nat
  | .text s => some (Text.codeCount s.toList)
  | .bytes b => some b.length
  | .list items | .tuple items | .set items => some items.length
  | .dict entries => some entries.length
  | _ => none

/-- How many characters, bytes, items or entries the value has, if it has a size at all. -/
def size? : Value → Option Nat
  | .knot cells start => cells[start]?.bind ownSize?
  | v => v.ownSize?

/-- Zero, the empty containers, `false` and null are false; all else is true. -/
def isTrue : Value → Bool
  | .null => false
  | .bool b => b
  | .int n => n != 0
  | .float x => !x.isZero
  | .decimal d => !d.isZero
  | .fraction q => q.num != 0
  | v => v.size?.getD 1 != 0

/-- Two numbers of equal place in the exact order. -/
def equalNumbers (a b : Value) : Bool :=
  match a.extended?, b.extended? with
  | some p, some q => p.compare q == .eq
  | _, _ => false

mutual

/-- Equality by content: numbers by exact value whatever their kind, mappings and sets without
regard to order. A NaN equals nothing. -/
def equal : Value → Value → Bool
  | .null, .null => true
  | .text s, .text t => s == t
  | .bytes a, .bytes b => a == b
  | .date a, .date b => a == b
  | .moment a, .moment b => a.same b
  | .list a, .list b => equalLists a b
  | .tuple a, .tuple b => equalLists a b
  | .set a, .set b => a.length == b.length && allHeld a b
  | .dict a, .dict b => a.length == b.length && allEntriesHeld a b
  | a, b => equalNumbers a b

def equalLists : List Value → List Value → Bool
  | [], [] => true
  | a :: as, b :: bs => equal a b && equalLists as bs
  | _, _ => false

/-- Each item of the first list equals one of the second. -/
def allHeld : List Value → List Value → Bool
  | [], _ => true
  | a :: as, bs => bs.any (equal a) && allHeld as bs

def allEntriesHeld : List (Value × Value) → List (Value × Value) → Bool
  | [], _ => true
  | (k, v) :: rest, bs => bs.any (fun (l, w) => equal k l && equal v w) && allEntriesHeld rest bs

end

/-- A NaN that must not be looked at. -/
def isSignaling : Value → Bool
  | .decimal (.nan _ true _) => true
  | _ => false

mutual

/-- A comparison of the two values looks at a signaling NaN before it is decided. Items are compared
in order, up to the first ones that differ. -/
def meetsSignal : Value → Value → Bool
  | .list a, .list b => a.length == b.length && itemsMeetSignal a b
  | .tuple a, .tuple b => itemsMeetSignal a b
  | .dict a, .dict b => a.length == b.length && entriesMeetSignal a b
  | a, b =>
    (a.isSignaling && b.isComparable) || (b.isSignaling && a.isComparable)

def itemsMeetSignal : List Value → List Value → Bool
  | a :: as, b :: bs => meetsSignal a b || (equal a b && itemsMeetSignal as bs)
  | _, _ => false

def entriesMeetSignal : List (Value × Value) → List (Value × Value) → Bool
  | [], _ => false
  | (k, v) :: rest, bs =>
    match bs.find? fun (l, _) => equal k l with
    | none => false
    | some (_, w) => meetsSignal v w || (equal v w && entriesMeetSignal rest bs)

end

/-- The value of the first entry whose key is the given text. -/
def lookup? (key : String) : List (Value × Value) → Option Value
  | [] => none
  | (.text k, v) :: rest => if k = key then some v else lookup? key rest
  | _ :: rest => lookup? key rest

/-- Puts an entry into a mapping: a key that is there already keeps its place and its spelling. -/
def insertEntry (key value : Value) : List (Value × Value) → List (Value × Value)
  | [] => [(key, value)]
  | (k, v) :: rest =>
    if k.equal key then (k, value) :: rest else (k, v) :: insertEntry key value rest

/-- The mapping that a list of entries gives when put in one by one. -/
def ofEntries (entries : List (Value × Value)) : Value :=
  .dict (entries.foldl (fun dict (k, v) => insertEntry k v dict) [])

/-- The set of the listed values, each at its first place. -/
def ofItems (items : List Value) : Value :=
  .set (items.foldl (fun set v => if set.any (equal v) then set else set ++ [v]) [])

end Value

inductive KeyFault
  | mutable (kind : String)
  | signalingNaN
  deriving DecidableEq

namespace Value

mutual

/-- The first reason why a value cannot be a key: a container that can change, or a NaN that must
not be looked at. -/
def keyFault? : Value → Option KeyFault
  | .list _ => some (.mutable "list")
  | .dict _ => some (.mutable "dict")
  | .set _ => some (.mutable "set")
  | .decimal (.nan _ true _) => some .signalingNaN
  | .tuple items => keyFaultIn? items
  | _ => none

def keyFaultIn? : List Value → Option KeyFault
  | [] => none
  | v :: rest => (keyFault? v).or (keyFaultIn? rest)

end

end Value

end FluentBuilder
