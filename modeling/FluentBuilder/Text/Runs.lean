/-!
Sets of code points as run lengths: the number of code points outside the set, then inside it, then
outside again, and so on. What follows the last run is on the other side of it.
-/

namespace FluentBuilder.Text

/-- Follows the runs from a side to the side where the code point lies. -/
def sideInRuns (inside : Bool) : List Nat → Nat → Bool
  | [], _ => inside
  | run :: runs, n => if n < run then inside else sideInRuns (!inside) runs (n - run)

def inRuns (runs : List Nat) (n : Nat) : Bool := sideInRuns false runs n

/-- Where in its own run a member of the set lies. -/
def offsetInRuns? (runs : List Nat) (n : Nat) : Option Nat := go false runs n
where
  go (inside : Bool) : List Nat → Nat → Option Nat
    | [], n => if inside then some n else none
    | run :: runs, n =>
      if n < run then (if inside then some n else none) else go (!inside) runs (n - run)

end FluentBuilder.Text
