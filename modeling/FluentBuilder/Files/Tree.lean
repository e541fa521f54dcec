import FluentBuilder.Text.Encode

/-!
A tree of files. A path is followed name by name; two points lead back to the directory above, and
single points count for nothing.
-/

namespace FluentBuilder

inductive FileContent
  | file (bytes : List UInt8)
  | directory

/-- Files and directories by the names that lead to them, and the place where relative paths begin.
The directories on the way to an entry are there too. -/
structure FileTree where
  entries : List (List String × FileContent) := []
  start : List String := []

inductive FileError
  | missing
  | directory
  | notDirectory
  | nameTooLong
  deriving DecidableEq

def FileError.message (path : String) : FileError → String
  | .missing => "[Errno 2] No such file or directory: " ++ Text.quoted path
  | .directory => "[Errno 21] Is a directory: " ++ Text.quoted path
  | .notDirectory => "[Errno 20] Not a directory: " ++ Text.quoted path
  | .nameTooLong => "[Errno 36] File name too long: " ++ Text.quoted path

inductive PathFault
  | unwritable (fault : Text.EncodeFault)
  | nullByte

def PathFault.message : PathFault → String
  | .unwritable f => f.message
  | .nullByte => "embedded null byte"

def pathFault? (path : String) : Option PathFault :=
  match Text.encodeFault? Text.isByteHalf path.toList with
  | some fault => some (.unwritable fault)
  | none => if path.toList.contains '\x00' then some .nullByte else none

def isAbsolute (path : String) : Bool := path.startsWith "/"

/-- The names in a path, without empty ones and single points. -/
def namesBetween (path : String) : List String :=
  ((path.toList.splitOn '/').map String.ofList).filter fun name => name ≠ "" ∧ name ≠ "."

def rootName : String := "/"

/-- The names that lead along a path; an absolute one begins with the name of the root, and any
other with the names of the place where relative paths begin. -/
def pathNames (start : List String) (path : String) : List String :=
  (if isAbsolute path then [rootName] else start) ++ namesBetween path

def plainPath (path : String) : String :=
  let start :=
    if path.startsWith "//" && !path.startsWith "///" then "//"
    else if isAbsolute path then "/"
    else ""
  let text := start ++ "/".intercalate (namesBetween path)
  if text = "" then "." else text

/-- The most bytes that a name in a path may have. -/
def longestName : Nat := 255

def longestPath : Nat := 4095

/-- The name that leads one step back. -/
def stepBack : String := ".."

/-- The place one step back. The root is above itself, and of a place without names nothing above is
known. -/
def placeAbove? (place : List String) : Option (List String) :=
  if place.isEmpty then none
  else if place = [rootName] then some place
  else some place.dropLast

/-- The place to which names lead when each step back undoes the step before it. -/
def placeOf? (names : List String) : Option (List String) :=
  names.foldlM (fun place name =>
    if name = stepBack then placeAbove? place else some (place ++ [name])) []

namespace FileTree

def at? (t : FileTree) (names : List String) : Option FileContent :=
  match t.entries.find? (·.1 == names) with
  | some (_, content) => some content
  | none =>
    if names.isEmpty || names == [rootName] ||
        t.entries.any fun (path, _) => names.isPrefixOf path then some .directory
    else none

def follow (t : FileTree) (place : List String) : List String → Except FileError FileContent
  | [] =>
    match t.at? place with
    | some content => .ok content
    | none => .error .missing
  | name :: rest =>
    match t.at? place with
    | none => .error .missing
    | some (.file _) => .error .notDirectory
    | some .directory =>
      if longestName < Text.writtenSize (Text.codes name.toList) then .error .nameTooLong
      else if name ≠ stepBack then t.follow (place ++ [name]) rest
      else match placeAbove? place with
        | some above => t.follow above rest
        | none => if rest.all (· = stepBack) then .ok .directory else .error .missing

def read (t : FileTree) (path : String) : Except FileError (List UInt8) :=
  if longestPath < Text.writtenSize (Text.codes (plainPath path).toList) then .error .nameTooLong
  else match t.follow [] (pathNames t.start path) with
  | .ok (.file bytes) => .ok bytes
  | .ok .directory => .error .directory
  | .error e => .error e

/-- The bytes of the regular file of a path, if there is one; steps back are undone beforehand. -/
def regularFile? (t : FileTree) (path : String) : Option (List UInt8) :=
  match (placeOf? (pathNames t.start path)).bind t.at? with
  | some (.file bytes) => some bytes
  | _ => none

end FileTree

end FluentBuilder
