import FluentBuilder.Rule.Basic
import FluentBuilder.Spec.Assembly

/-!
Builders at work. A builder holds a value for each field and is open until it has built its
instance. Work on a builder changes it in place, so that a change stays when the work fails later.
-/

namespace FluentBuilder

/-- The state of a builder: its values in the order of the fields, and whether it has built. -/
structure Builder where
  values : List (String × Value)
  built : Bool := false
  deriving Inhabited

namespace Builder

/-- A new builder, all of whose values are null. -/
def new (s : BuilderSpec) : Builder where
  values := s.fields.map fun f => (f.name, .null)

/-- The value of a field; null for a name that is no field's. -/
def get (b : Builder) (field : String) : Value := (b.values.lookup field).getD .null

def set (b : Builder) (field : String) (v : Value) : Builder :=
  { b with values := b.values.map fun (name, old) => (name, if name = field then v else old) }

def dict (b : Builder) : Value := .dict (b.values.map fun (name, v) => (.text name, v))

end Builder

/-- An attribute of a builder: a method, the description that all builders of the type share, or a
value. -/
inductive Attribute
  | setter (method : Method)
  | description (spec : BuilderSpec)
  | create
  | values
  | validate
  | build
  | ensureOpen
  | value (v : Value)

def valuesName : String := "values"

/-- The name of the flag that tells whether a builder has built. -/
def builtName : String := "built"

/-- The name under which a builder type holds its description. -/
def specName : String := "spec"

/-- The name under which a builder keeps its values. -/
def storeName : String := "_values"

/-- The name under which a builder keeps whether it has built. -/
def flagName : String := "_built"

/-- The name of the method that refuses a builder that has built. -/
def ensureOpenName : String := "_ensure_open"

/-- What reading an attribute gives: a value, a method with its name, or a description with the name
of what it describes. -/
inductive Reading
  | value (v : Value)
  | method (name : String)
  | description (builder : String)

def Attribute.reading : Attribute → Reading
  | .setter m => .method m.name
  | .description s => .description s.qualifiedName
  | .create => .method createName
  | .values => .method valuesName
  | .validate => .method validateName
  | .build => .method buildName
  | .ensureOpen => .method ensureOpenName
  | .value v => .value v

inductive Result
  | itself
  | builder (b : Builder)
  | value (v : Value)
  | readings (rs : List Reading)

inductive CallError
  | violation (violation : Violation)
  | fault (fault : Fault)
  | consumed (builder : String)
  | missingArgument (method : String)
  | tooManyArguments (method : String) (taken given : Nat)
  | noAttribute (name : String)
  | noTypeAttribute (name : String)
  | unnamedAttribute (kind : String)
  | notCallable (kind : String)
  | notCreated
  | rejected
  | noBuilder (name : String)

/-- What is wrong, in words. A method counts its builder among the arguments. -/
def CallError.message : CallError → String
  | .violation v => v.message
  | .fault f => f.message
  | .consumed builder => builder ++ " has already built its instance."
  | .missingArgument method => method ++ "() missing 1 required positional argument: 'value'"
  | .tooManyArguments method taken given =>
    method ++ "() takes " ++ Number.natText (taken + 1) ++ " positional argument" ++
      (if taken = 0 then "" else "s") ++ " but " ++ Number.natText (given + 1) ++ " were given"
  | .noAttribute name =>
    Text.quoted builderName ++ " object has no attribute " ++ Text.quoted name
  | .noTypeAttribute name =>
    "type object " ++ Text.quoted builderName ++ " has no attribute " ++ Text.quoted name
  | .unnamedAttribute kind => Text.quoted kind ++ " object has no attribute '__qualname__'"
  | .notCallable kind => Text.quoted kind ++ " object is not callable"
  | .notCreated => builderName ++ " instances are obtained through create()."
  | .rejected => "target rejected"
  | .noBuilder name => name

def CheckError.callError : CheckError → CallError
  | .violation v => .violation v
  | .fault f => .fault f

/-- Work on a builder. It gives something or fails; what it has changed before stays changed. -/
abbrev Work (α : Type) := ExceptT CallError (StateM Builder) α

/-- What work on a builder gives, and the builder after it. -/
def Work.on {α : Type} (w : Work α) (b : Builder) : Except CallError α × Builder := w.run.run b

/-- A builder type: its description, and what is done with a builder that builds. -/
structure BuilderType where
  spec : BuilderSpec
  handoff : Work Result

/-- The names that a field cannot have, since a builder has attributes of these names. -/
def reservedNames : List String :=
  [builtName, specName, valuesName, validateName, buildName, createName]

/-- A field of this name could not be read from a builder. -/
def isReserved (field : String) : Bool :=
  reservedNames.contains field || field.startsWith "_"

/-- Makes a builder type; refuses the first field that could not be read back. -/
def materialize (s : BuilderSpec) (handoff : Work Result) : Except NameCollision BuilderType :=
  match s.fields.find? fun f => isReserved f.name with
  | some f => .error { synthesized := f.name, existing := s.qualifiedName ++ "." ++ f.name }
  | none => .ok { spec := s, handoff }

end FluentBuilder
