import FluentBuilder.Class.Error
import FluentBuilder.Text.LetterCase

/-!
Names made for a builder. Each setter is named for its field, and no made name may clash with a name
that is there already or with another made name.
-/

namespace FluentBuilder

open Text

/-- The name of every builder within its class. -/
def builderName : String := "Builder"

def setterStem : String := "with"

def capitalize (name : String) : String :=
  match name.toList with
  | [] => ""
  | c :: cs => String.ofList (upperChar c ++ cs)

def setterName (field : String) : String := setterStem ++ capitalize field

/-- The name of a class's builder as seen from outside. -/
def ClassDescriptor.builderTypeName (c : ClassDescriptor) : String := c.name ++ "." ++ builderName

/-- A clash of names: the one that was made, and the one that was there. -/
structure NameCollision where
  synthesized : String
  existing : String
  deriving DecidableEq

def NameCollision.error (n : NameCollision) : GenerationError :=
  .nameCollision n.synthesized n.existing

/-- A setter name with the field it belongs to. -/
def setterOf (field : String) : String := setterName field ++ " (from field '" ++ field ++ "')"

/-- Refuses the first field whose setter name an earlier field has, the earlier fields being given
with their setter names. -/
def checkSetters (earlier : List (String × String)) : List String → Except NameCollision Unit
  | [] => .ok ()
  | field :: rest =>
    match earlier.lookup (setterName field) with
    | some other =>
      .error { synthesized := setterOf field,
               existing := setterName field ++ " (from field '" ++ other ++ "')" }
    | none => checkSetters (earlier ++ [(setterName field, field)]) rest

/-- Refuses names of a builder for the given fields that clash. -/
def checkCollisions (c : ClassDescriptor) (fields : List FieldDescriptor) :
    Except NameCollision Unit :=
  if c.memberNames.contains builderName then
    .error { synthesized := builderName, existing := c.builderTypeName }
  else if c.name = builderName then
    .error { synthesized := c.builderTypeName, existing := c.name }
  else checkSetters [] (fields.map (·.name))

end FluentBuilder
