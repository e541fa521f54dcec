import FluentBuilder.Library.Basic
import FluentBuilder.Number.Numeral
import FluentBuilder.Settings.Assignment
import FluentBuilder.Text.Utf8

/-!
What a file of variables says. A value may refer to other variables: those of the same file above it
come first, then those of the environment, then the default that the reference gives.
-/

namespace FluentBuilder

open Text

/-- A reference to a variable behind a dollar sign: its name and default, and the text behind it. -/
def reference? (cs : List Char) : Option (String × Option (List Char) × List Char) :=
  match cs with
  | '\x7b' :: more =>
    let isNameEnd (c : Char) : Bool := c = '\x7d' || c = ':'
    let name := String.ofList (more.takeWhile (!isNameEnd ·))
    match more.dropWhile (!isNameEnd ·) with
    | '\x7d' :: rest => some (name, none, rest)
    | ':' :: '-' :: more =>
      match more.dropWhile (· ≠ '\x7d') with
      | _ :: rest => some (name, some (more.takeWhile (· ≠ '\x7d')), rest)
      | [] => none
    | _ => none
  | _ => none

def replaceReferences (valueOf : String → Option (List Char) → List Char) (cs : List Char) :
    Nat → List Char
  | 0 => cs
  | steps + 1 =>
    match cs with
    | [] => []
    | c :: rest =>
      match if c = '$' then reference? rest else none with
      | some (name, default, rest) => valueOf name default ++ replaceReferences valueOf rest steps
      | none => c :: replaceReferences valueOf rest steps

def referredNames : List Char → List String
  | [] => []
  | c :: rest =>
    match if c = '$' then reference? rest else none with
    | some (name, _) => name :: referredNames rest
    | none => referredNames rest

/-- What a reference stands for. A name that the file mentions without a value stands for
nothing. -/
def referenceValue (environment : Variables) (above : Mentions)
    (name : String) (default : Option (List Char)) : List Char :=
  match above.lookup name, environment.lookup name with
  | some value, _ => (value.getD "").toList
  | none, some value => value.toList
  | none, none => default.getD []

/-- Adds a statement to the names above it, the last one first. -/
def addStatement (environment : Variables) (above : Mentions) :
    Statement → Mentions
  | .assignment name value =>
    let resolved := value.map fun text =>
      String.ofList
        (replaceReferences (referenceValue environment above) text.toList text.toList.length)
    (name, resolved) :: above
  | _ => above

/-- The names of a file with their values, the last one first. -/
def namesOf (environment : Variables) (statements : List Statement) :
    Mentions :=
  statements.foldl (addStatement environment) []

def skippedNotice : Statement → Option String
  | .unreadable line =>
    some ("python-dotenv could not parse statement starting at line " ++ Number.natText line ++ "\n")
  | _ => none

/-- Reads a file of variables as the library does that the program runs with. -/
def readStatements : VariableReader := fun environment bytes =>
  match textOfUtf8 bytes with
  | .error fault => { said := .error { kind := "UnicodeDecodeError", message := fault.message } }
  | .ok text =>
    let statements := Statement.readAll text
    { notices := statements.filterMap skippedNotice, said := .ok (namesOf environment statements) }

end FluentBuilder
