import FluentBuilder.Class.Naming

/-! Type parameters: a builder has those of its class, and the types it mentions are applied to
them. -/

namespace FluentBuilder

/-- A name applied to parameters; without any the name stands alone. -/
def parameterize (name : String) (parameters : List String) : String :=
  if parameters.isEmpty then name else name ++ "<" ++ ", ".intercalate parameters ++ ">"

namespace ClassDescriptor

def builderParameters (c : ClassDescriptor) : List String := c.typeParameters

def isGeneric (c : ClassDescriptor) : Bool := !c.typeParameters.isEmpty

/-- The mark for parameters that are to be inferred. -/
def diamond (c : ClassDescriptor) : String := if c.isGeneric then "<>" else ""

def sourceReference (c : ClassDescriptor) : String := parameterize c.name c.builderParameters

def builderReference (c : ClassDescriptor) : String :=
  parameterize builderName c.builderParameters

end ClassDescriptor

end FluentBuilder
