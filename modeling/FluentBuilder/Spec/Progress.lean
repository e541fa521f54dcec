import FluentBuilder.Spec.Assembly

/-! What is reported while builders are derived: each stage that has been completed, in order. -/

namespace FluentBuilder

inductive Progress
  | selected (selected declared : Nat) (owner : String)
  | resolved (rules : Nat) (owner field : String)
  | assembled (builder : String) (setters : Nat)

/-- The stages completed while fields are resolved, and what is left to report at the end. -/
def resolvingProgress (c : ClassDescriptor) (atEnd : Progress) :
    List FieldDescriptor → List Progress
  | [] => [atEnd]
  | f :: rest =>
    match resolveConstraints c.name f with
    | .error _ => []
    | .ok rules => .resolved rules.length c.name f.name :: resolvingProgress c atEnd rest

/-- The stages completed while the builder of a class is derived. -/
def progressOf (c : ClassDescriptor) : List Progress :=
  match c.selectFields with
  | .error _ => []
  | .ok fields =>
    .selected fields.length c.fields.length c.name ::
      match checkCollisions c fields with
      | .error _ => []
      | .ok _ => resolvingProgress c (.assembled c.builderTypeName fields.length) fields

/-- The stages completed while the builders of several classes are derived, up to a failure. -/
def progressOfAll : List ClassDescriptor → List Progress
  | [] => []
  | c :: rest =>
    progressOf c ++ match assemble c with
      | .error _ => []
      | .ok _ => progressOfAll rest

end FluentBuilder
