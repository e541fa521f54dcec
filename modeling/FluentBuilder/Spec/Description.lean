import FluentBuilder.Json.Tree
import FluentBuilder.Spec.Basic

/-! The description of a builder as data to be printed. What a method does not have is left out. -/

namespace FluentBuilder

def Parameter.describe (p : Parameter) : Tree :=
  .fields [("name", .text p.name), ("type", .text p.type.render), ("variadic", .flag p.variadic)]

def Rule.describe (r : Rule) : Tree :=
  .fields [("field", .text r.fieldName), ("kind", .text r.kind),
    ("expression", .text r.expression), ("message", .text r.message)]

/-- An entry with a list, unless the list is empty. -/
def listEntry (key : String) (items : List Tree) : List (String × Tree) :=
  if items.isEmpty then [] else [(key, .list items)]

/-- An entry with a text, if there is one. -/
def textEntry (key : String) : Option String → List (String × Tree)
  | none => []
  | some s => [(key, .text s)]

def Method.describe (m : Method) : Tree :=
  .fields <|
    [("name", .text m.name), ("kind", .text m.kind.word), ("visibility", .text m.visibility.word),
      ("static", .flag m.isStatic)] ++
    textEntry "returns" m.returns ++
    listEntry "parameters" (m.parameters.map (·.describe)) ++
    listEntry "rules" (m.rules.map (·.describe)) ++
    textEntry "assigns" m.assigns ++
    textEntry "instantiates" m.instantiates ++
    listEntry "invokes" (m.invokes.map .text)

def FieldSpec.describe (f : FieldSpec) : Tree :=
  .fields [("name", .text f.name), ("type", .text f.type.render)]

/-- The description of a builder with the given descriptions of its methods. -/
def BuilderSpec.describeWith (s : BuilderSpec) (methods : List Tree) : Tree :=
  .fields [("name", .text s.name), ("qualified_name", .text s.qualifiedName),
    ("source", .text s.sourceName), ("type_parameters", .list (s.typeParameters.map .text)),
    ("fields", .list (s.fields.map (·.describe))), ("methods", .list methods)]

def BuilderSpec.describe (s : BuilderSpec) : Tree := s.describeWith (s.methods.map (·.describe))

end FluentBuilder
