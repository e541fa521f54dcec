import FluentBuilder.Class.Constraint
import FluentBuilder.TypeRef.Basic

/-!
Classes as they are declared: fields in their order, type parameters, and the names of other
members. A field may lack a type; such a class is refused when a builder is derived.
-/

namespace FluentBuilder

structure FieldDescriptor where
  name : String
  type : Option TypeRef
  constraints : List Constraint := []
  isStatic : Bool := false
  isTransient : Bool := false
  isSynthetic : Bool := false
  isExcluded : Bool := false
  deriving Inhabited

def FieldDescriptor.qualifies (f : FieldDescriptor) : Bool :=
  !(f.isStatic || f.isTransient || f.isSynthetic || f.isExcluded)

structure ClassDescriptor where
  name : String
  fields : List FieldDescriptor := []
  typeParameters : List String := []
  memberNames : List String := []
  deriving Inhabited

namespace ClassDescriptor

/-- The fields that take part in the builder, in the order of their declaration. -/
def qualifyingFields (c : ClassDescriptor) : List FieldDescriptor :=
  c.fields.filter (·.qualifies)

def field? (c : ClassDescriptor) (name : String) : Option FieldDescriptor :=
  c.fields.find? (·.name == name)

end ClassDescriptor

end FluentBuilder
