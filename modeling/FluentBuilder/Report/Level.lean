import FluentBuilder.Text.Blank
import FluentBuilder.Text.LetterCase

/-! Levels of log lines: a line is shown if its level is not below the level that has been set. -/

namespace FluentBuilder

def levelNames : List (String × Int) :=
  [("CRITICAL", 50), ("FATAL", 50), ("ERROR", 40), ("WARN", 30), ("WARNING", 30), ("INFO", 20),
    ("DEBUG", 10), ("NOTSET", 0)]

/-- The level for a name that names none. -/
def usualLevel : Int := 20

/-- The level of a name in any case, with or without blanks around it. -/
def levelNamed (name : String) : Int :=
  let word := String.ofList (Text.upper (Text.trim name.toList))
  (levelNames.lookup word).getD usualLevel

inductive LevelRequest
  | name (s : String)
  | number (n : Int)

def LevelRequest.level : LevelRequest → Int
  | .name s => levelNamed s
  | .number n => n

def logName : String := "buildergen"

/-- The level of the log, and that of everything else: the latter is set once and then stays. -/
structure LogLevels where
  own : Int
  root : Int
  deriving DecidableEq

def configureLog (before : Option LogLevels) (request : LevelRequest) : LogLevels where
  own := request.level
  root := (before.map (·.root)).getD request.level

def configureAll (before : Option LogLevels) : List LevelRequest → List LogLevels
  | [] => []
  | request :: rest =>
    let levels := configureLog before request
    levels :: configureAll (some levels) rest

end FluentBuilder
