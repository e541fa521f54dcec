import FluentBuilder.Document.Field

/-!
Reading classes from documents. A document describes one class by a mapping, or several by a list,
which may stand under the key `classes`.
-/

namespace FluentBuilder

namespace ClassDescriptor

/-- The items of a list in a class description; what is absent or counts as false is empty. -/
def entriesOf (owner key : String) (entries : List (Value × Value)) :
    Except Failure (List Value) :=
  match (trueEntryOr key (.list []) entries).opened with
  | .list items => .ok items
  | _ => refuseDocument (.classList key owner)

/-- Reads a class: its name, the shape of its lists, then its fields. -/
def ofDocument (entry : Value) : Except Failure ClassDescriptor :=
  match entry.opened with
  | .dict entries =>
    match entryOf "name" entries with
    | .text name => do
      let fields ← entriesOf name "fields" entries
      let parameters ← entriesOf name "type_parameters" entries
      let members ← entriesOf name "members" entries
      let fields ← fields.mapM FieldDescriptor.ofDocument
      let typeParameters ← parameters.mapM plainText
      let memberNames ← members.mapM plainText
      return { name, fields, typeParameters, memberNames }
    | _ => refuseDocument .unnamedClass
  | _ => refuseDocument (.classEntry entry)

/-- Reads the class of a mapping, or the classes of a list. -/
def listOf (document : Value) : Except Failure (List ClassDescriptor) :=
  match document.opened with
  | .dict entries => (ofDocument (.dict entries)).map ([·])
  | .list items => items.mapM ofDocument
  | _ => refuseDocument .noClasses

def listOfDocument (document : Value) : Except Failure (List ClassDescriptor) :=
  match document.opened with
  | .dict entries => listOf ((Value.lookup? "classes" entries).getD (.dict entries))
  | _ => listOf document

end ClassDescriptor

end FluentBuilder
