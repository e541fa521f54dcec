import FluentBuilder.Class.Error
import FluentBuilder.Pattern.Matcher

/-!
Validation rules: a constraint bound to a field, as a neutral expression, as a message and as a test
that values pass or fail. A test can also break off with a fault, when a number is too large to be
looked at.
-/

namespace FluentBuilder

open Number Text

/-- What a rule demands of a value. -/
inductive Test
  | present
  | filled
  | within (bounds : RangeBounds)
  | sizeWithin (low : Nat) (high : Option Nat)
  | matching (pattern : Pattern.Compiled)

/-- A number that is not NaN. A whole number or a fraction beyond the floating-point range cannot be
asked. -/
def Value.isProperNumber : Value → Except Fault Bool
  | .int n =>
    match Binary64.ofInt n with
    | .infinite _ => .error .integerTooLarge
    | _ => .ok true
  | .fraction q =>
    match Binary64.ofRatio (q.num < 0) q.num.natAbs q.den with
    | .infinite _ => .error .quotientTooLarge
    | _ => .ok true
  | .float x => .ok (!x.isNaN)
  | .decimal d => .ok (!d.isNaN)
  | _ => .ok false

/-- The first number is less than the second in the exact order. -/
def Value.isBelow (a b : Value) : Bool :=
  match a.extended?, b.extended? with
  | some p, some q => p.compare q == .lt
  | _, _ => false

/-- Null is no bound; otherwise the value lies above the bound, or on it if that is allowed. -/
def Value.reaches (v bound : Value) (exclusive : Bool) : Bool :=
  match bound with
  | .null => true
  | bound => bound.isBelow v || (!exclusive && bound.equalNumbers v)

/-- Null is no bound; otherwise the value lies below the bound, or on it if that is allowed. -/
def Value.staysWithin (v bound : Value) (exclusive : Bool) : Bool :=
  match bound with
  | .null => true
  | bound => v.isBelow bound || (!exclusive && v.equalNumbers bound)

/-- The value passes the test. Null passes all tests but those for presence. -/
def Test.holds : Test → Value → Except Fault Bool
  | .present, .null => .ok false
  | .present, _ => .ok true
  | .filled, v => .ok (v.size?.getD 0 != 0)
  | _, .null => .ok true
  | .within bounds, v => do
    if !(← v.isProperNumber) then return false
    return v.reaches bounds.min bounds.minExclusive &&
      v.staysWithin bounds.max bounds.maxExclusive
  | .sizeWithin low high, v =>
    match v.size? with
    | none => .ok false
    | some size => .ok (low ≤ size && high.all (size ≤ ·))
  | .matching pattern, .text s =>
    match pattern.matchWhole (codes s.toList).toArray with
    | .matched => .ok true
    | .unmatched => .ok false
    | .spoiled => .error .spoiledGroup
  | .matching _, _ => .ok false

/-- A constraint bound to a field. -/
structure Rule where
  fieldName : String
  constraint : Constraint
  expression : String
  message : String
  test : Test

structure Violation where
  field : String
  kind : String
  message : String
  value : Value

inductive CheckError
  | violation (violation : Violation)
  | fault (fault : Fault)

namespace Rule

def kind (r : Rule) : String := r.constraint.kind

def holds (r : Rule) (v : Value) : Except Fault Bool := r.test.holds v

def violation (r : Rule) (v : Value) : Violation where
  field := r.fieldName
  kind := r.kind
  message := r.message ++ " (got " ++ v.literal ++ ")"
  value := v

/-- Passes if the value keeps the rule. A violation shows the value. -/
def check (r : Rule) (v : Value) : Except CheckError Unit :=
  match r.holds v with
  | .ok true => .ok ()
  | .ok false =>
    if v.hasLongNumber then .error (.fault (.longNumber none))
    else .error (.violation (r.violation v))
  | .error f => .error (.fault f)

/-- Rules that show the same; their tests are not compared. -/
def equal (a b : Rule) : Bool :=
  a.fieldName == b.fieldName && a.constraint.equal b.constraint && a.expression == b.expression &&
    a.message == b.message

end Rule

end FluentBuilder
