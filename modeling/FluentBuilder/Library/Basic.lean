import FluentBuilder.Json.Tree
import FluentBuilder.Value.Basic

/-!
What the program takes from libraries: reading and writing YAML, writing JSON, and reading files of
variables. The program is given them; what it relies on is stated where it matters.
-/

namespace FluentBuilder

/-- An error that is raised elsewhere: its kind, and what is wrong in words. -/
structure ForeignError where
  kind : String
  message : String
  deriving DecidableEq

/-- Why no document is read from a text: the text is malformed, or the value of a scalar cannot be
constructed and the error of its constructor goes through. -/
inductive YamlError
  | malformed (reason : String)
  | raised (error : ForeignError)
  deriving DecidableEq

abbrev YamlReader := List Char → Except YamlError Value

/-- Of the errors of constructors only those of values go through. -/
def YamlReader.RaisesValueErrors (read : YamlReader) : Prop :=
  ∀ text error, read text = .error (.raised error) → error.kind = "ValueError"

/-- Variables with their values; the first entry of a name counts. -/
abbrev Variables := List (String × String)

/-- What a file says of names: a value, or that the name is mentioned only. The first entry of a
name counts. -/
abbrev Mentions := List (String × Option String)

/-- What comes of reading a file of variables: notices that are printed, and what the file says. -/
structure VariableReading where
  notices : List String := []
  said : Except ForeignError Mentions

/-- A file may refer to the variables of the environment. -/
abbrev VariableReader := (environment : Variables) → (bytes : List UInt8) → VariableReading

structure Libraries where
  readYaml : YamlReader
  writeYaml : List Tree → String
  writeJson : List Tree → String
  readVariables : VariableReader

end FluentBuilder
