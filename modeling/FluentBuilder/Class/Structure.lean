import FluentBuilder.Class.Error
import FluentBuilder.Text.Identifier

/-!
The structure of a class: names must be identifiers, none may be declared twice, and each field
needs a type. All fields are looked at, whether they take part in the builder or not.
-/

namespace FluentBuilder

/-- An identifier in which a dollar sign counts as an underscore. -/
def isName (name : String) : Bool :=
  Text.isIdentifier (name.toList.map fun c => if c = '$' then '_' else c)

/-- Checks type parameters behind those already seen. -/
def checkParameters (owner : String) (seen : List String) : List String → Except ClassError Unit
  | [] => .ok ()
  | p :: rest =>
    if !isName p then .error (.parameterName p owner)
    else if seen.contains p then .error (.parameterTwice p owner)
    else checkParameters owner (p :: seen) rest

def checkFieldType (owner : String) (f : FieldDescriptor) : Except ClassError Unit :=
  match f.type with
  | none => .error (.untyped f.name owner)
  | some t =>
    if t.name = "" then .error (.untyped f.name owner)
    else if t.kind = .array ∧ t.element = none then .error (.noElement f.name owner)
    else .ok ()

/-- Checks fields behind those already seen. -/
def checkFields (owner : String) (seen : List String) :
    List FieldDescriptor → Except ClassError Unit
  | [] => .ok ()
  | f :: rest =>
    if !isName f.name then .error (.fieldName f.name owner)
    else if seen.contains f.name then .error (.fieldTwice f.name owner)
    else do
      checkFieldType owner f
      checkFields owner (f.name :: seen) rest

namespace ClassDescriptor

/-- Checks the class name, the type parameters and the fields, in this order. -/
def checkStructure (c : ClassDescriptor) : Except ClassError Unit := do
  if !isName c.name then throw (.className c.name)
  checkParameters c.name [] c.typeParameters
  checkFields c.name [] c.fields

/-- The fields that take part in the builder of a sound class. -/
def selectFields (c : ClassDescriptor) : Except ClassError (List FieldDescriptor) := do
  c.checkStructure
  return c.qualifyingFields

end ClassDescriptor

end FluentBuilder
