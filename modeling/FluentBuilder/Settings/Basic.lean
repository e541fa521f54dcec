import FluentBuilder.Settings.Variables
import FluentBuilder.Text.Blank
import FluentBuilder.Text.LetterCase

/-!
Settings. The environment is stronger than files, and a later file is stronger than an earlier one;
a blank value stands for the default and hides weaker sources all the same.
-/

namespace FluentBuilder

structure Settings where
  environment : String := "development"
  logLevel : String := "INFO"
  outputFormat : String := "yaml"
  emitDocs : Bool := false
  deriving DecidableEq

def settingNames : List String :=
  ["BUILDERGEN_ENV", "BUILDERGEN_LOG_LEVEL", "BUILDERGEN_OUTPUT_FORMAT", "BUILDERGEN_EMIT_DOCS"]

def outputFormats : List String := ["yaml", "json"]

/-- The words that turn documentation on. -/
def docsWords : List String := ["1", "true", "yes"]

namespace Settings

/-- The value of a variable in the strongest source that has it. -/
def raw (environment files : Variables) (name : String) : Option String :=
  (environment.lookup name).or (files.lookup name)

/-- A value without the blanks around it, or the default for none and a blank one. -/
def orDefault (default : String) (value : Option String) : String :=
  let text := Text.trimmed (value.getD "")
  if text = "" then default else text

def ofVariables (environment files : Variables) : Settings :=
  let value (name default : String) : String := orDefault default (raw environment files name)
  { environment := value "BUILDERGEN_ENV" "development"
    logLevel := value "BUILDERGEN_LOG_LEVEL" "INFO"
    outputFormat :=
      String.ofList (Text.lower (value "BUILDERGEN_OUTPUT_FORMAT" "yaml").toList)
    emitDocs := docsWords.contains (value "BUILDERGEN_EMIT_DOCS" "0") }

def read (readVariables : VariableReader) (environment : Variables) (files : FileTree)
    (paths : List String) : Except ForeignError Settings :=
  (fileVariables readVariables environment files paths).map (ofVariables environment)

end Settings

end FluentBuilder
