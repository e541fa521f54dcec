import FluentBuilder.Spec.Assembly
import FluentBuilder.Spec.Description

/-! Comments for setters: what is set, the constraints, the parameter and the result, line by line.
-/

namespace FluentBuilder

/-- The line on the elements that an array takes. -/
def arrayLines (t : TypeRef) : Except Fault (List String) :=
  if t.kind = .array then
    match t.element with
    | none => .error .noElementType
    | some element =>
      .ok ["Accepts any number of " ++ element.render ++ " values, stored as " ++ t.render ++ "."]
  else .ok []

def documentationLines (name : String) (t : TypeRef) (rules : List Rule) :
    Except Fault (List String) := do
  let elements ← arrayLines t
  let constraints := if rules.isEmpty then [] else
    "" :: "Constraints:" :: rules.map fun r => "- " ++ r.message
  let violations := if rules.isEmpty then [] else
    ["@throws ConstraintViolation if the value breaks a constraint"]
  return ("Sets the value of " ++ name ++ ".") :: elements ++ constraints ++
    ["", "@param " ++ name ++ " the new value (" ++ t.render ++ ")", "@return this builder"] ++
    violations

def documentSetter (f : FieldDescriptor) (rules : List Rule) : Except Fault String :=
  match f.type with
  | none => .error (.noType "kind")
  | some t => (documentationLines f.name t rules).map "\n".intercalate

/-- The comments of a builder's setters, by the names of the setters. -/
def setterDocs (c : ClassDescriptor) (s : BuilderSpec) : List (String × String) :=
  s.setters.filterMap fun setter => do
    let f ← c.field? (← setter.assigns)
    let doc ← (documentSetter f setter.rules).toOption
    return (setter.name, doc)

/-- The description of a method, with the comment for its name if there is one. -/
def describeMethodWith (docs : List (String × String)) (m : Method) : Tree :=
  match docs.lookup m.name with
  | some doc => m.describe.withEntry "doc" (.text doc)
  | none => m.describe

def describeDocumented (c : ClassDescriptor) (s : BuilderSpec) : Tree :=
  s.describeWith (s.methods.map (describeMethodWith (setterDocs c s)))

end FluentBuilder
