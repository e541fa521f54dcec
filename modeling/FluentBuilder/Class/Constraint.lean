import FluentBuilder.Value.Literal

/-!
Constraints on the value of a field. Bounds and patterns are held as they were given, of whatever
kind; what is no constraint at all is held as a foreign value.
-/

namespace FluentBuilder

/-- The bounds of a range; null is no bound. -/
structure RangeBounds where
  min : Value := .null
  max : Value := .null
  minExclusive : Bool := false
  maxExclusive : Bool := false
  deriving Inhabited

/-- At least one bound is given. -/
def RangeBounds.isBounded (b : RangeBounds) : Bool :=
  match b.min, b.max with
  | .null, .null => false
  | _, _ => true

inductive Constraint
  | nonNull
  | nonEmpty
  | range (bounds : RangeBounds)
  | size (min max : Value)
  | pattern (regex : Value)
  | foreign (value : Value)
  deriving Inhabited

namespace Constraint

def kind : Constraint → String
  | .nonNull => "non_null"
  | .nonEmpty => "non_empty"
  | .range _ => "range"
  | .size .. => "size"
  | .pattern _ => "pattern"
  | .foreign _ => "other"

/-- The same constraint, with bounds and patterns equal as values. -/
def equal : Constraint → Constraint → Bool
  | .nonNull, .nonNull => true
  | .nonEmpty, .nonEmpty => true
  | .range a, .range b =>
    a.min.equal b.min && a.max.equal b.max && a.minExclusive == b.minExclusive &&
      a.maxExclusive == b.maxExclusive
  | .size a b, .size c d => a.equal c && b.equal d
  | .pattern a, .pattern b => a.equal b
  | .foreign a, .foreign b => a.equal b
  | _, _ => false

/-- A comparison of the constraints looks at a signaling NaN before it is decided. -/
def meetsSignal : Constraint → Constraint → Bool
  | .range a, .range b => Value.itemsMeetSignal [a.min, a.max] [b.min, b.max]
  | .size a b, .size c d => Value.itemsMeetSignal [a, b] [c, d]
  | .pattern a, .pattern b | .foreign a, .foreign b => a.meetsSignal b
  | _, _ => false

end Constraint

end FluentBuilder
