import FluentBuilder.Builder.Basic

/-!
Reading attributes of builders and calling them. Setters hide fields of the same name; a setter
checks its argument before it assigns, and `build` checks all values before it hands the builder
over.
-/

namespace FluentBuilder

def Value.kindWord : Value → String
  | .null => "NoneType"
  | .bool _ => "bool"
  | .int _ => "int"
  | .float _ => "float"
  | .decimal _ => "decimal.Decimal"
  | .fraction _ => "Fraction"
  | .text _ => "str"
  | .bytes _ => "bytes"
  | .date _ => "datetime.date"
  | .moment _ => "datetime.datetime"
  | .list _ => "list"
  | .tuple _ => "tuple"
  | .set _ => "set"
  | .dict _ => "dict"
  | .knot cells start =>
    match cells[start]? with
    | some (.dict _) => "dict"
    | some (.tuple _) => "tuple"
    | _ => "list"
  | .link _ => "list"

/-- The first rule that the value does not pass decides. -/
def checkAll (v : Value) : List Rule → Except CheckError Unit
  | [] => .ok ()
  | r :: rest => do
    r.check v
    checkAll v rest

/-- Runs each rule on the value of its field. -/
def Builder.validate (b : Builder) : List Rule → Except CheckError Unit
  | [] => .ok ()
  | r :: rest => do
    r.check (b.get r.fieldName)
    b.validate rest

namespace BuilderSpec

/-- The methods that every builder has, its description, and the values in which it keeps its state.
Left out, and so missing, are `_assign` and `_handoff`, through which setters and `build` work, and
what every object has. -/
def commonAttribute? (s : BuilderSpec) (b : Builder) (name : String) : Option Attribute :=
  if name = specName then some (.description s)
  else if name = createName then some .create
  else if name = valuesName then some .values
  else if name = validateName then some .validate
  else if name = buildName then some .build
  else if name = builtName ∨ name = flagName then some (.value (.bool b.built))
  else if name = storeName then some (.value b.dict)
  else if name = ensureOpenName then some .ensureOpen
  else none

/-- The attribute of a builder: a setter, a common attribute, or the value of a field. -/
def attribute? (s : BuilderSpec) (b : Builder) (name : String) : Option Attribute :=
  match s.setters.find? (·.name == name) with
  | some m => some (.setter m)
  | none => (s.commonAttribute? b name).or <|
    if name.startsWith "_" then none else (b.values.lookup name).map .value

def read (s : BuilderSpec) (name : String) : Work Reading := do
  match s.attribute? (← get) name with
  | some a => return a.reading
  | none => throw (.noAttribute name)

def qualified (s : BuilderSpec) (m : Method) : String := s.qualifiedName ++ "." ++ m.name

/-- Takes the arguments of a setter: any number in a list, or exactly one. -/
def setterArgument (s : BuilderSpec) (m : Method) (arguments : List Value) :
    Except CallError Value :=
  if m.parameters.any (·.variadic) then .ok (.list arguments)
  else match arguments with
    | [] => .error (.missingArgument (s.qualified m))
    | [v] => .ok v
    | _ => .error (.tooManyArguments (s.qualified m) 1 arguments.length)

/-- Refuses a builder that has built. -/
def ensureOpen (s : BuilderSpec) : Work Unit := do
  if (← get).built then throw (.consumed s.qualifiedName)

/-- Puts a value into a field, after the rules have passed it. -/
def assign (s : BuilderSpec) (field : String) (v : Value) (rules : List Rule) : Work Unit := do
  s.ensureOpen
  (checkAll v rules).mapError CheckError.callError
  modify fun b => b.set field v

def callSetter (s : BuilderSpec) (m : Method) (arguments : List Value) : Work Result := do
  let v ← s.setterArgument m arguments
  s.assign (m.assigns.getD "") v m.rules
  return .itself

def validateAll (s : BuilderSpec) : Work Unit := do
  ((← get).validate s.validate.rules).mapError CheckError.callError

end BuilderSpec

/-- What the names of the methods that all builders share are qualified with. -/
def sharedTypeName : String := "RuntimeBuilder"

def descriptionWord : String := "BuilderSpec"

/-- Refuses arguments to a method that all builders share. -/
def takeNone (method : String) (arguments : List Value) : Except CallError Unit :=
  if arguments.isEmpty then .ok ()
  else .error (.tooManyArguments (sharedTypeName ++ "." ++ method) 0 arguments.length)

namespace BuilderType

/-- Checks all values and hands the builder over. -/
def build (t : BuilderType) : Work Result := do
  t.spec.ensureOpen
  t.spec.validateAll
  let result ← t.handoff
  modify fun b => { b with built := true }
  return result

def callAttribute (t : BuilderType) (arguments : List Value) : Attribute → Work Result
  | .value v => throw (.notCallable v.kindWord)
  | .description _ => throw (.notCallable descriptionWord)
  | .setter m => t.spec.callSetter m arguments
  | .create => do
    takeNone createName arguments
    return .builder (.new t.spec)
  | .values => do
    takeNone valuesName arguments
    return .value (← get).dict
  | .validate => do
    takeNone validateName arguments
    t.spec.validateAll
    return .value .null
  | .build => do
    takeNone buildName arguments
    t.build
  | .ensureOpen => do
    takeNone ensureOpenName arguments
    t.spec.ensureOpen
    return .value .null

def call (t : BuilderType) (name : String) (arguments : List Value) : Work Result := do
  match t.spec.attribute? (← get) name with
  | none => throw (.noAttribute name)
  | some a => t.callAttribute arguments a

def qualifiedName (t : BuilderType) (name : String) : Except CallError String :=
  match t.spec.setters.find? (·.name == name) with
  | some m => .ok (t.spec.qualified m)
  | none =>
    if [createName, valuesName, validateName, buildName, ensureOpenName, storeName,
        flagName].contains name then
      .ok (sharedTypeName ++ "." ++ name)
    else if name = builtName then .error (.unnamedAttribute "property")
    else if name = specName then .error (.unnamedAttribute descriptionWord)
    else .error (.noTypeAttribute name)

end BuilderType

/-- Builds a mapping of the values. -/
def byFields : Work Result := do return .value (← get).dict

/-- Builds nothing. -/
def byRefusal : Work Result := throw .rejected

/-- What is done with a builder: a call, a look at an attribute, or writing into the mapping that
`values` gives. -/
inductive Action
  | call (member : String) (arguments : List Value)
  | read (member : String)
  | poke (key : String) (v : Value)

inductive Shown
  | created
  | result (r : Result)
  | reading (r : Reading)
  | text (s : String)

/-- Does one thing with a builder. The mapping of the values is a copy, so that what is written into
it is lost. -/
def BuilderType.act (t : BuilderType) : Action → Work Shown
  | .call member arguments => do return .result (← t.call member arguments)
  | .read member => do return .reading (← t.spec.read member)
  | .poke _ _ => return .result (.value .null)

end FluentBuilder
