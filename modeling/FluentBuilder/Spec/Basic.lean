import FluentBuilder.Rule.Basic

/-!
Builders as described for a renderer: the fields they hold and their methods. A setter runs its
rules and then assigns its parameter; `build` invokes `validate`, which runs all rules.
-/

namespace FluentBuilder

inductive Visibility
  | isPublic
  | isPrivate
  deriving DecidableEq

def Visibility.word : Visibility → String
  | .isPublic => "public"
  | .isPrivate => "private"

inductive MethodKind
  | constructor
  | factory
  | setter
  | build
  | validate
  deriving DecidableEq

def MethodKind.word : MethodKind → String
  | .constructor => "constructor"
  | .factory => "factory"
  | .setter => "setter"
  | .build => "build"
  | .validate => "validate"

structure FieldSpec where
  name : String
  type : TypeRef
  deriving DecidableEq

/-- A parameter of a method; a variadic one takes any number of arguments. -/
structure Parameter where
  name : String
  type : TypeRef
  variadic : Bool := false
  deriving DecidableEq

def Parameter.render (p : Parameter) : String :=
  p.type.render ++ (if p.variadic then "..." else "") ++ " " ++ p.name

structure Method where
  name : String
  kind : MethodKind
  visibility : Visibility
  returns : Option String := none
  parameters : List Parameter := []
  isStatic : Bool := false
  rules : List Rule := []
  assigns : Option String := none
  instantiates : Option String := none
  invokes : List String := []

def equalRules : List Rule → List Rule → Bool
  | [], [] => true
  | a :: as, b :: bs => a.equal b && equalRules as bs
  | _, _ => false

/-- Methods that show the same. -/
def Method.equal (a b : Method) : Bool :=
  a.name == b.name && a.kind == b.kind && a.visibility == b.visibility &&
    a.returns == b.returns && a.parameters == b.parameters && a.isStatic == b.isStatic &&
    equalRules a.rules b.rules && a.assigns == b.assigns && a.instantiates == b.instantiates &&
    a.invokes == b.invokes

def equalMethods : List Method → List Method → Bool
  | [], [] => true
  | a :: as, b :: bs => a.equal b && equalMethods as bs
  | _, _ => false

structure BuilderSpec where
  name : String
  qualifiedName : String
  sourceName : String
  typeParameters : List String
  fields : List FieldSpec
  constructor : Method
  create : Method
  setters : List Method
  build : Method
  validate : Method

namespace BuilderSpec

/-- All methods: the constructor and the factory, the setters, then `build` and `validate`. -/
def methods (s : BuilderSpec) : List Method :=
  s.constructor :: s.create :: (s.setters ++ [s.build, s.validate])

def setterFor? (s : BuilderSpec) (field : String) : Option Method :=
  s.setters.find? (·.assigns == some field)

def equal (a b : BuilderSpec) : Bool :=
  a.name == b.name && a.qualifiedName == b.qualifiedName && a.sourceName == b.sourceName &&
    a.typeParameters == b.typeParameters && a.fields == b.fields &&
    equalMethods a.methods b.methods

end BuilderSpec

end FluentBuilder
