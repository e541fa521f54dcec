import FluentBuilder.Spec.Basic

/-! Looking up fields and setters that must be there. -/

namespace FluentBuilder

inductive LookupError
  | field (owner name : String)
  | setter (builder field : String)
  deriving DecidableEq

def LookupError.message : LookupError → String
  | .field owner name => "Class '" ++ owner ++ "' declares no field '" ++ name ++ "'."
  | .setter builder name => builder ++ " has no setter for '" ++ name ++ "'."

def ClassDescriptor.field (c : ClassDescriptor) (name : String) :
    Except LookupError FieldDescriptor :=
  match c.field? name with
  | some f => .ok f
  | none => .error (.field c.name name)

def BuilderSpec.setterFor (s : BuilderSpec) (field : String) : Except LookupError Method :=
  match s.setterFor? field with
  | some m => .ok m
  | none => .error (.setter s.qualifiedName field)

end FluentBuilder
