import FluentBuilder.Class.Generics
import FluentBuilder.Class.Structure
import FluentBuilder.Rule.Resolve
import FluentBuilder.Spec.Basic

/-!
Deriving the builder of a class. First the structure of the class is checked, then the names to be
made, then the constraints of each field; the first thing wrong is the answer.
-/

namespace FluentBuilder

/-- A field of the builder with its rules. The names are distinct, so that keeping the rules with their
field is the same as looking them up by its name. -/
structure ResolvedField where
  name : String
  type : TypeRef
  rules : List Rule

def resolveField (owner : String) (f : FieldDescriptor) : Except Failure ResolvedField := do
  let rules ← resolveConstraints owner f
  let type ← f.typeFor "kind"
  return { name := f.name, type, rules }

namespace ResolvedField

/-- The parameter of a setter: the elements of an array one by one, anything else as it is. -/
def parameter (f : ResolvedField) : Parameter :=
  match f.type.kind, f.type.element with
  | .array, some element => { name := f.name, type := element, variadic := true }
  | _, _ => { name := f.name, type := f.type }

def setter (f : ResolvedField) (builderType : String) : Method where
  name := setterName f.name
  kind := .setter
  visibility := .isPublic
  returns := some builderType
  parameters := [f.parameter]
  rules := f.rules
  assigns := some f.name

end ResolvedField

def createName : String := "create"

def buildName : String := "build"

def validateName : String := "validate"

def specOf (c : ClassDescriptor) (fields : List ResolvedField) : BuilderSpec where
  name := builderName
  qualifiedName := c.builderTypeName
  sourceName := c.name
  typeParameters := c.builderParameters
  fields := fields.map fun f => { name := f.name, type := f.type }
  constructor := { name := builderName, kind := .constructor, visibility := .isPrivate }
  create :=
    { name := createName, kind := .factory, visibility := .isPublic,
      returns := some c.builderReference, isStatic := true,
      instantiates := some (builderName ++ c.diamond) }
  setters := fields.map (·.setter c.builderReference)
  build :=
    { name := buildName, kind := .build, visibility := .isPublic,
      returns := some c.sourceReference, instantiates := some (c.name ++ c.diamond),
      invokes := [validateName] }
  validate :=
    { name := validateName, kind := .validate, visibility := .isPrivate,
      rules := fields.flatMap (·.rules) }

/-- The fields that take part, or what is wrong with the structure. -/
def selectedFields (c : ClassDescriptor) : Except Failure (List FieldDescriptor) :=
  c.selectFields.mapError fun e => .generation (.badClass e)

def checkNames (c : ClassDescriptor) (fields : List FieldDescriptor) : Except Failure Unit :=
  (checkCollisions c fields).mapError fun e => .generation e.error

def assemble (c : ClassDescriptor) : Except Failure BuilderSpec := do
  let fields ← selectedFields c
  checkNames c fields
  return specOf c (← fields.mapM (resolveField c.name))

/-- Derives the builders of several classes; the first failure is the answer. -/
def assembleAll (classes : List ClassDescriptor) : Except Failure (List BuilderSpec) :=
  classes.mapM assemble

end FluentBuilder
