import FluentBuilder.Document.Class
import FluentBuilder.Files.Tree
import FluentBuilder.Library.Basic
import FluentBuilder.Text.Utf8

/-! Reading classes from files: the bytes of a file, its characters, its document, and its classes.
-/

namespace FluentBuilder

inductive LoadError
  | failure (failure : Failure)
  | raised (error : ForeignError)
  | path (fault : PathFault)

/-- The text of a file, with plain line ends. -/
def readText (files : FileTree) (path : String) : Except DocumentError (List Char) :=
  match files.read path with
  | .error e => .error (.unreadableFile path (e.message (plainPath path)))
  | .ok bytes =>
    (Text.textOfUtf8 bytes).mapError fun fault => .unreadableFile path fault.message

/-- The document in the file of a path. What is malformed is refused; any other error of the library
goes through. -/
def readDocument (readYaml : YamlReader) (files : FileTree) (path : String) :
    Except LoadError Value := do
  if let some fault := pathFault? (plainPath path) then throw (.path fault)
  let text ← (readText files path).mapError fun e => .failure (.generation (.badDocument e))
  match readYaml text with
  | .ok document => return document
  | .error (.malformed reason) =>
    throw (.failure (.generation (.badDocument (.malformedFile path reason))))
  | .error (.raised error) => throw (.raised error)

def loadClasses (readYaml : YamlReader) (files : FileTree) (path : String) :
    Except LoadError (List ClassDescriptor) := do
  let document ← readDocument readYaml files path
  (ClassDescriptor.listOfDocument document).mapError .failure

end FluentBuilder
