import FluentBuilder.Cli.Run
import FluentBuilder.Library.Installed

/-!
The program: it reads the files and variables that its arguments ask for, runs, and prints.
-/

namespace FluentBuilder

/-- What stands at a path of the file system; a path that leads nowhere has nothing. -/
def contentAt (path : String) : IO (Option FileContent) := do
  try
    return some (.file (← IO.FS.readBinFile (Text.shown path)).toList)
  catch
    | .inappropriateType .. => return some .directory
    | _ => return none

/-- A place, written as a path. -/
def pathOf (place : List String) : String :=
  match place with
  | [] => "."
  | name :: rest =>
    if name = rootName then name ++ "/".intercalate rest else "/".intercalate place

/-- What stands at the places to which the first names of a path lead. -/
def contentsAlong (names : List String) : IO (List (List String × FileContent)) := do
  let places := (List.range (names.length + 1)).filterMap fun n => placeOf? (names.take n)
  let found ← places.mapM fun place => return (place, ← contentAt (pathOf place))
  return found.filterMap fun (place, content) => content.map (place, ·)

/-- The files of some paths, seen from the current directory. -/
def readTree (paths : List String) : IO FileTree := do
  let start := pathNames [] (Text.taken (← IO.currentDir).toString)
  let contents ← paths.mapM fun path => contentsAlong (pathNames start path)
  return { entries := contents.flatten, start }

def Request.paths (r : Request) : List String :=
  match r.command with
  | .describe path _ | .check path => path :: r.namedFiles

/-- The variables to which the files of some paths refer. -/
def namesIn (files : FileTree) (paths : List String) : List String :=
  paths.flatMap fun path =>
    match (files.regularFile? path).map Text.textOfUtf8 with
    | some (.ok cs) => referredNames cs
    | _ => []

def readEnvironment (names : List String) : IO Variables := do
  let values ← names.mapM fun name => return (name, ← IO.getEnv (Text.shown name))
  return values.filterMap fun (name, value) => value.map fun value => (name, Text.taken value)

/-- Runs the program with the files and variables that its arguments ask for. -/
def runWith (arguments : List String) : IO Printed := do
  let run := runProgram .installed .utf8
  match Request.read arguments with
  | .error _ => return run [] {} arguments
  | .ok request => do
    let files ← readTree request.paths
    let environment ← readEnvironment (settingNames ++ namesIn files request.namedFiles)
    return run environment files arguments

end FluentBuilder

open FluentBuilder

/-- Prints what the run prints, and ends with its exit code; a crash is printed and ends with
one. -/
def main (arguments : List String) : IO UInt32 := do
  let printed ← runWith (arguments.map Text.taken)
  IO.print (Text.shown printed.output)
  IO.eprint (Text.shown printed.errors)
  match printed.exit with
  | .code n => return n.toUInt32
  | .crash crash =>
    IO.eprintln (Text.shown crash.message)
    return 1
