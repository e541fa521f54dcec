import FluentBuilder.Files.Tree
import FluentBuilder.Library.Basic

/-! Variables of files: a later file is stronger than an earlier one. -/

namespace FluentBuilder

def variablesOf (said : Mentions) : Variables :=
  match said with
  | [] => []
  | (name, value) :: above =>
    let rest := (variablesOf above).filter (·.1 ≠ name)
    match value with
    | some value => (name, value) :: rest
    | none => rest

section

variable (readVariables : VariableReader) (environment : Variables) (files : FileTree)

/-- What comes of reading the file of a path; nothing is read where there is no regular file. -/
def variablesAt (path : String) : VariableReading :=
  match files.regularFile? path with
  | none => { said := .ok [] }
  | some bytes => readVariables environment bytes

/-- The variables of several files; those of a later file come first. -/
def fileVariables : List String → Except ForeignError Variables
  | [] => .ok []
  | path :: paths => do
    let said ← (variablesAt readVariables environment files path).said
    let later ← fileVariables paths
    return later ++ variablesOf said

/-- The notices that are given while files are read, up to one that cannot be read. -/
def variableNotices : List String → List String
  | [] => []
  | path :: paths =>
    let reading := variablesAt readVariables environment files path
    match reading.said with
    | .error _ => reading.notices
    | .ok _ => reading.notices ++ variableNotices paths

end

end FluentBuilder
