import FluentBuilder.Json.Quoted
import FluentBuilder.Rule.Basic

/-!
Resolving constraints into rules. A constraint that does not fit the type of its field, or that
contradicts itself, is refused with the flaw that was found first.
-/

namespace FluentBuilder

open Number

def refuse {α : Type} (f : FieldDescriptor) (c : Constraint) (flaw : ConstraintFlaw) :
    Except Failure α :=
  .error (GenerationError.invalidConstraint f.name c flaw).failure

def demand (f : FieldDescriptor) (c : Constraint) (holds : Bool) (flaw : ConstraintFlaw) :
    Except Failure Unit :=
  if holds then .ok () else refuse f c flaw

/-- The declared type, or the fault of asking a missing one for the named property. -/
def FieldDescriptor.typeFor (f : FieldDescriptor) (asked : String) : Except Failure TypeRef :=
  match f.type with
  | some t => .ok t
  | none => .error (.fault (.noType asked))

/-- Refuses values with numbers too long to be written. -/
def checkWritten (values : List Value) : Except Failure Unit :=
  if values.any (·.hasLongNumber) then .error (.fault (.longNumber none)) else .ok ()

def resolveNonNull (f : FieldDescriptor) : Except Failure Rule := do
  let t ← f.typeFor "nullable"
  demand f .nonNull t.nullable (.neverNull t.render)
  return {
    fieldName := f.name
    constraint := .nonNull
    expression := f.name ++ " != null"
    message := f.name ++ " must not be null"
    test := .present }

def checkBound (f : FieldDescriptor) (c : Constraint) (bound : Value) : Except Failure Unit :=
  match bound with
  | .null => .ok ()
  | bound =>
    match bound.isProperNumber with
    | .error fault => .error (.fault fault)
    | .ok true => .ok ()
    | .ok false => refuse f c (.boundNotNumber bound)

/-- Refuses two bounds with no value between them. -/
def checkInterval (f : FieldDescriptor) (b : RangeBounds) : Except Failure Unit :=
  match b.min, b.max with
  | .null, _ | _, .null => .ok ()
  | low, high =>
    if high.isBelow low then refuse f (.range b) (.minAboveMax low high)
    else if low.equalNumbers high && (b.minExclusive || b.maxExclusive) then
      refuse f (.range b) (.noValueBetween low high)
    else .ok ()

def lowerSign (exclusive : Bool) : String := if exclusive then ">" else ">="

def upperSign (exclusive : Bool) : String := if exclusive then "<" else "<="

def rangeChecks (name : String) (b : RangeBounds) : List String :=
  let low := match b.min with
    | .null => []
    | low => [name ++ " " ++ lowerSign b.minExclusive ++ " " ++ low.plain]
  let high := match b.max with
    | .null => []
    | high => [name ++ " " ++ upperSign b.maxExclusive ++ " " ++ high.plain]
  low ++ high

/-- The message of a range: the interval, or the one bound there is. -/
def rangeMessage (name : String) (b : RangeBounds) : String :=
  match b.min, b.max with
  | .null, high => name ++ " must be " ++ upperSign b.maxExclusive ++ " " ++ high.plain
  | low, .null => name ++ " must be " ++ lowerSign b.minExclusive ++ " " ++ low.plain
  | low, high =>
    name ++ " must be within " ++ (if b.minExclusive then "(" else "[") ++ low.plain ++ ", " ++
      high.plain ++ (if b.maxExclusive then ")" else "]")

def resolveRange (f : FieldDescriptor) (b : RangeBounds) : Except Failure Rule := do
  let t ← f.typeFor "numeric"
  demand f (.range b) t.numeric (.notNumeric t.render)
  demand f (.range b) b.isBounded .noBounds
  checkBound f (.range b) b.min
  checkBound f (.range b) b.max
  checkInterval f b
  checkWritten [b.min, b.max]
  return {
    fieldName := f.name
    constraint := .range b
    expression := " && ".intercalate (rangeChecks f.name b)
    message := rangeMessage f.name b
    test := .within b }

def resolveNonEmpty (f : FieldDescriptor) : Except Failure Rule := do
  let t ← f.typeFor "sized"
  demand f .nonEmpty t.sized (.neverEmpty t.render)
  return {
    fieldName := f.name
    constraint := .nonEmpty
    expression := f.name ++ " != null && size(" ++ f.name ++ ") > 0"
    message := f.name ++ " must not be empty"
    test := .filled }

def sizeBound (f : FieldDescriptor) (c : Constraint) (bound : Value) : Except Failure Nat :=
  match bound with
  | .int n => if n < 0 then refuse f c (.sizeNegative n) else .ok n.toNat
  | bound => refuse f c (.sizeNotInteger bound)

def sizeBound? (f : FieldDescriptor) (c : Constraint) (bound : Value) :
    Except Failure (Option Nat) :=
  match bound with
  | .null => .ok none
  | bound => some <$> sizeBound f c bound

/-- The rule that the size must lie within bounds. The least size is zero if none is given. -/
def resolveSize (f : FieldDescriptor) (min max : Value) : Except Failure Rule := do
  let t ← f.typeFor "sized"
  let c := Constraint.size min max
  demand f c t.sized (.notSized t.render)
  let low := (← sizeBound? f c min).getD 0
  let high ← sizeBound? f c max
  demand f c (high.all (low ≤ ·)) (.minSizeAboveMax low (high.getD 0))
  checkWritten [.int low, .int (high.getD 0)]
  let atLeast := "size(" ++ f.name ++ ") >= " ++ natText low
  return {
    fieldName := f.name
    constraint := c
    expression := match high with
      | none => atLeast
      | some high => atLeast ++ " && size(" ++ f.name ++ ") <= " ++ natText high
    message := match high with
      | none => "size of " ++ f.name ++ " must be at least " ++ natText low
      | some high =>
        "size of " ++ f.name ++ " must be between " ++ natText low ++ " and " ++ natText high
    test := .sizeWithin low high }

def compilePattern (f : FieldDescriptor) (regex : Value) (pattern : List Char) (isText : Bool) :
    Except Failure Pattern.Compiled :=
  match Pattern.compile pattern isText with
  | .ok compiled => .ok compiled
  | .error (.malformed e) =>
    refuse f (.pattern regex) (.malformedPattern regex (e.message pattern isText))
  | .error .hugeRepetition => .error (.fault .repetitionTooLarge)
  | .error .hugeCode => .error (.fault .codeTooLarge)
  | .error (.longNumber digits) => .error (.fault (.longNumber (some digits)))
  | .error .asciiAndUnicode => .error (.fault .asciiAndUnicode)
  | .error .asciiAndLocale => .error (.fault .asciiAndLocale)

/-- The rule that a text must match a pattern as a whole. -/
def resolvePattern (f : FieldDescriptor) (regex : Value) : Except Failure Rule := do
  let t ← f.typeFor "kind"
  demand f (.pattern regex) (t.kind == .text) (.notText t.render)
  match regex with
  | .text s =>
    let compiled ← compilePattern f regex s.toList true
    return {
      fieldName := f.name
      constraint := .pattern regex
      expression := "matches(" ++ f.name ++ ", " ++ Json.quoted s ++ ")"
      message := f.name ++ " must match pattern " ++ s
      test := .matching compiled }
  | .bytes b =>
    let _ ← compilePattern f regex (b.map fun byte => Char.ofNat byte.toNat) false
    throw (.fault .bytesInExpression)
  | regex =>
    match regex.keyFault? with
    | some fault => throw (.fault (.keyFault fault))
    | none => throw (.fault .patternNotText)

def resolveConstraint (owner : String) (f : FieldDescriptor) : Constraint → Except Failure Rule
  | .nonNull => resolveNonNull f
  | .nonEmpty => resolveNonEmpty f
  | .range b => resolveRange f b
  | .size min max => resolveSize f min max
  | .pattern regex => resolvePattern f regex
  | .foreign v =>
    .error (GenerationError.badClass (.foreignConstraint f.name owner v)).failure

def resolveConstraints (owner : String) (f : FieldDescriptor) : Except Failure (List Rule) :=
  f.constraints.mapM (resolveConstraint owner f)

end FluentBuilder
