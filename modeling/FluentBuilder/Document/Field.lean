import FluentBuilder.Class.Error
import FluentBuilder.Text.LetterCase
import FluentBuilder.Value.Knot

/-!
Reading fields from documents. A constraint is a bare tag, or a mapping from one tag to its options;
a field is a mapping with a name, a type and perhaps constraints and flags. A collection of a knot
is opened when its entries are asked for.
-/

namespace FluentBuilder

/-- The value under a key; null if there is none. -/
def entryOf (key : String) (entries : List (Value × Value)) : Value :=
  (Value.lookup? key entries).getD .null

/-- The value under a key, or the given one where there is none or one that counts as false. -/
def trueEntryOr (key : String) (default : Value) (entries : List (Value × Value)) : Value :=
  let value := entryOf key entries
  if value.isTrue then value else default

def refuseDocument {α : Type} (e : DocumentError) : Except Failure α :=
  .error (GenerationError.badDocument e).failure

/-- The plain text of a value, if it can be written. -/
def plainText (v : Value) : Except Failure String :=
  if v.hasLongNumber then .error (.fault (.longNumber none)) else .ok v.plain

/-- A tag without underscores and hyphens, in lower case. -/
def tagWord (tag : String) : String :=
  String.ofList (Text.lower (tag.toList.filter fun c => c ≠ '_' ∧ c ≠ '-'))

namespace Constraint

/-- The options of a constraint, which must be a mapping. -/
def optionsOf (tag options : Value) : Except Failure (List (Value × Value)) :=
  match options.opened with
  | .dict entries => .ok entries
  | _ => refuseDocument (.noOptions tag options)

/-- An option that is a truth value; false if it is not given. -/
def flagOf (tag : Value) (options : List (Value × Value)) (key : String) :
    Except Failure Bool :=
  match Value.lookup? key options with
  | none => .ok false
  | some (.bool b) => .ok b
  | some other => refuseDocument (.noFlag tag key other)

def rangeOf (tag options : Value) : Except Failure Constraint := do
  let entries ← optionsOf tag options
  let minExclusive ← flagOf tag entries "min_exclusive"
  let maxExclusive ← flagOf tag entries "max_exclusive"
  return .range { min := entryOf "min" entries, max := entryOf "max" entries, minExclusive,
                  maxExclusive }

/-- The size bounds that options describe; the least size is zero if it is not given. -/
def sizeOf (tag options : Value) : Except Failure Constraint := do
  let entries ← optionsOf tag options
  return .size ((Value.lookup? "min" entries).getD (.int 0)) (entryOf "max" entries)

/-- The pattern that an option gives, by itself or under a key. -/
def patternOf (options : Value) : Except Failure Constraint :=
  let regex := match options.opened with
    | .dict entries => entryOf "regex" entries
    | _ => options
  match regex with
  | .text _ => .ok (.pattern regex)
  | other => refuseDocument (.noRegex other)

def ofTag (tag options : Value) : Except Failure Constraint := do
  match tagWord (← plainText tag) with
  | "nonnull" | "notnull" => return .nonNull
  | "nonempty" | "notempty" => return .nonEmpty
  | "range" => rangeOf tag options
  | "size" | "sizebound" => sizeOf tag options
  | "pattern" => patternOf options
  | _ => refuseDocument (.unknownConstraint tag)

def ofDocument (entry : Value) : Except Failure Constraint :=
  match entry.opened with
  | .text tag => ofTag (.text tag) .null
  | .dict [(tag, options)] => ofTag tag options
  | _ => refuseDocument (.unreadableConstraint entry)

end Constraint

namespace FieldDescriptor

/-- The items of a list of constraints; null and all else that counts as false is an empty list. -/
def constraintEntries (name : String) (entries : List (Value × Value)) :
    Except Failure (List Value) :=
  match (trueEntryOr "constraints" (.list []) entries).opened with
  | .list items => .ok items
  | _ => refuseDocument (.constraintList name)

/-- Reads a field: its name, its type, then its constraints. Any value that counts as true sets a
flag. -/
def ofDocument (entry : Value) : Except Failure FieldDescriptor :=
  match entry.opened with
  | .dict entries =>
    match entryOf "name" entries, entryOf "type" entries with
    | .text name, .text type => do
      let constraints ← constraintEntries name entries
      let type ← (TypeRef.ofString type).mapError fun e => .generation (.badDocument (.type e))
      let constraints ← constraints.mapM Constraint.ofDocument
      let flag (key : String) : Bool := (entryOf key entries).isTrue
      return { name, type, constraints, isStatic := flag "static",
               isTransient := flag "transient", isSynthetic := flag "synthetic",
               isExcluded := flag "excluded" }
    | .text name, _ => refuseDocument (.untypedField name)
    | _, _ => refuseDocument (.unnamedField (.dict entries))
  | _ => refuseDocument (.fieldEntry entry)

end FieldDescriptor

end FluentBuilder
