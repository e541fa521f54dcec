import FluentBuilder.Value.Basic

/-!
The order in which the members of a set stand. A table has more than twice as many slots as it has
members. A number asks for the slot of its residue; if another number has come before, it looks at
the slots behind that one, and then elsewhere. Members stand in the order of their slots. If some
member is no number, the order in which they have been put in is kept.
-/

namespace FluentBuilder.Value

open Number

def residueModulus : Nat := Nat.pow 2 61 - 1

/-- The code of a number of the given residue and sign. No number has the code minus one. -/
def signedCode (negative : Bool) (residue : Nat) : Int :=
  let code := signedNat negative (residue % residueModulus)
  if code = -1 then -2 else code

/-- The code of a number: equal numbers have the same. A power of two is taken modulo 61, since the
modulus is one less than the 61st power. -/
def slotCode? : Value → Option Int
  | .bool b => some (if b then 1 else 0)
  | .int n => some (signedCode (n < 0) n.natAbs)
  | .float (.finite negative mantissa exponent) =>
    some (signedCode negative (mantissa * Nat.pow 2 (exponent % 61).toNat))
  | .float (.infinite negative) => some (signedNat negative 314159)
  | _ => none

/-- How many slots behind the one that is asked for are looked at, if there are so many. -/
def slotReach : Nat := 9

/-- The first free slot from `slot` on. `spread` makes the search go elsewhere for numbers that ask
for the same slot. -/
def freeSlot (size : Nat) (taken : List Nat) : (fuel : Nat) → (slot spread : Nat) → Nat
  | 0, slot, _ => slot
  | fuel + 1, slot, spread =>
    let near := if slot + slotReach < size then List.range (slotReach + 1) else [0]
    match (near.map (slot + ·)).find? fun s => !taken.contains s with
    | some s => s
    | none => freeSlot size taken fuel ((slot * 5 + 1 + spread / 32) % size) (spread / 32)

/-- How many slots there are for so many members: a power of two, and 8 at least. -/
def slotCount (members : Nat) : Nat := if members < 5 then 8 else Nat.pow 2 ((2 * members).log2 + 1)

/-- More slots than a search looks at. -/
def slotSearch : Nat := Nat.pow 2 62

/-- Gives each member a free slot, in the order in which they are put in. -/
def placeMembers (size : Nat) : List (Value × Int) → List (Nat × Value) → List (Nat × Value)
  | [], placed => placed
  | (v, code) :: rest, placed =>
    let spread := (code % Nat.pow 2 64).toNat
    let slot := freeSlot size (placed.map (·.1)) slotSearch (spread % size) spread
    placeMembers size rest ((slot, v) :: placed)

def withCode? (v : Value) : Option (Value × Int) := v.slotCode?.map fun code => (v, code)

/-- The members of a set in the order in which they stand. -/
def inSlotOrder (members : List Value) : List Value :=
  match members.mapM withCode? with
  | none => members
  | some coded =>
    ((placeMembers (slotCount members.length) coded []).mergeSort fun a b => a.1 ≤ b.1).map (·.2)

end FluentBuilder.Value
