import FluentBuilder.Cli.Command
import FluentBuilder.Cli.Printing
import FluentBuilder.Document.Load
import FluentBuilder.Spec.Documentation
import FluentBuilder.Spec.Progress

/-!
Running a command: what is printed, what is logged, and how the run ends. Generation errors are
reported; any other failure ends the run by itself.
-/

namespace FluentBuilder

open Number

structure LogLine where
  level : String
  source : String
  message : String

namespace LogLine

def rank (l : LogLine) : Int := (levelNames.lookup l.level).getD usualLevel

def text (l : LogLine) : String :=
  l.level ++ " | " ++ logName ++ "." ++ l.source ++ " | " ++ l.message ++ "\n"

end LogLine

def Progress.logLine : Progress → LogLine
  | .selected chosen declared owner =>
    { level := "DEBUG", source := "fields",
      message := "Selected " ++ natText chosen ++ " of " ++ natText declared ++ " fields of " ++
        owner }
  | .resolved rules owner field =>
    { level := "DEBUG", source := "constraints",
      message := "Resolved " ++ natText rules ++ " rule(s) for " ++ owner ++ "." ++ field }
  | .assembled builder setters =>
    { level := "DEBUG", source := "assembler",
      message := "Assembled " ++ builder ++ " with " ++ natText setters ++ " setter(s)" }

/-- What a run does: how it ends unless a text is refused, the texts that it prints one after another,
and its log. -/
structure Outcome where
  exit : Exit
  texts : List String := []
  log : List LogLine := []

/-- Classes with their builders, or why there are none. -/
inductive Derivation
  | derived (builders : List (ClassDescriptor × BuilderSpec))
  | refused (error : GenerationError)
  | crashed (crash : Crash)

def deriveAll (classes : List ClassDescriptor) : Derivation :=
  match assembleAll classes with
  | .ok specs => .derived (classes.zip specs)
  | .error (.generation e) => .refused e
  | .error (.fault f) => .crashed (.fault f)

/-- Reads a file and derives the builders of its classes, with the stages completed. -/
def deriveFile (readYaml : YamlReader) (files : FileTree) (path : String) :
    Derivation × List Progress :=
  match loadClasses readYaml files path with
  | .error (.failure (.generation e)) => (.refused e, [])
  | .error (.failure (.fault f)) => (.crashed (.fault f), [])
  | .error (.raised e) => (.crashed (.raised e), [])
  | .error (.path f) => (.crashed (.path f), [])
  | .ok classes => (deriveAll classes, progressOfAll classes)

def reportError (path : String) (e : GenerationError) (log : List LogLine) : Outcome where
  exit := .code 1
  texts := ["Error: " ++ e.message ++ "\n"]
  log := log ++
    [{ level := "ERROR", source := "cli",
       message := "Generation failed for " ++ path ++ ": " ++ e.message }]

/-- Runs what is to be done with the builders of a file, or reports why there are none. -/
def withBuilders (readYaml : YamlReader) (files : FileTree) (path : String)
    (use : List (ClassDescriptor × BuilderSpec) → Nat × List String) : Outcome :=
  let (derivation, progress) := deriveFile readYaml files path
  let log := progress.map (·.logLine)
  match derivation with
  | .refused e => reportError path e log
  | .crashed crash => { exit := .crash crash, log }
  | .derived builders =>
    let (code, texts) := use builders
    { exit := .code code, texts, log }

def checkLine (s : BuilderSpec) : String :=
  "OK " ++ s.qualifiedName ++ ": " ++ natText s.fields.length ++ " field(s), " ++
    natText s.validate.rules.length ++ " rule(s)\n"

def runCheck (readYaml : YamlReader) (files : FileTree) (path : String) : Outcome :=
  withBuilders readYaml files path fun builders => (0, builders.map fun (_, s) => checkLine s)

/-- The class is asked for: an empty name asks for all. -/
def isAskedFor (className : Option String) (c : ClassDescriptor) : Bool :=
  match className with
  | none | some "" => true
  | some name => c.name == name

def Libraries.serialize (lib : Libraries) (format : String) (descriptions : List Tree) : String :=
  if format = "json" then lib.writeJson descriptions ++ "\n" else lib.writeYaml descriptions

/-- The descriptions of the builders that are asked for, or the error that there is none. -/
def describeBuilders (lib : Libraries) (path format : String) (docs : Bool)
    (className : Option String) (builders : List (ClassDescriptor × BuilderSpec)) :
    Nat × List String :=
  let chosen := builders.filter fun (c, _) => isAskedFor className c
  match className, chosen with
  | some name, [] =>
    if name = "" then (0, [lib.serialize format []])
    else (1, ["Error: no class named " ++ Text.quoted name ++ " in " ++ path ++ "\n"])
  | _, chosen =>
    (0, [lib.serialize format (chosen.map fun (c, s) =>
      if docs then describeDocumented c s else s.describe)])

/-- Describes the builders of a file. The format is checked before the file is read. -/
def runDescribe (lib : Libraries) (files : FileTree) (settings : Settings) (path : String)
    (options : DescribeOptions) : Outcome :=
  let format := options.format.getD settings.outputFormat
  if outputFormats.contains format then
    withBuilders lib.readYaml files path
      (describeBuilders lib path format (options.docs || settings.emitDocs) options.className)
  else
    { exit := .code 1
      texts := ["Error: output format must be one of " ++ ", ".intercalate outputFormats ++
        ", got " ++ Text.quoted format ++ "\n"] }

def runCommand (lib : Libraries) (files : FileTree) (settings : Settings) : Command → Outcome
  | .describe path options => runDescribe lib files settings path options
  | .check path => runCheck lib.readYaml files path

/-- The level that a run logs at: the one that is asked for, unless it is empty, or the one set. -/
def requestLevel (request : Request) (settings : Settings) : Int :=
  match request.logLevel with
  | none | some "" => levelNamed settings.logLevel
  | some name => levelNamed name

structure Printed where
  exit : Exit
  output : String := ""
  errors : String := ""

section

variable (lib : Libraries) (printer : Printer) (environment : Variables) (files : FileTree)

def runRequest (request : Request) : Printed :=
  let notices := String.join
    (variableNotices lib.readVariables environment files request.namedFiles)
  match Settings.read lib.readVariables environment files request.namedFiles with
  | .error error => { exit := .crash (.raised error), errors := notices }
  | .ok settings =>
    if request.envFiles.any (·.isNone) then { exit := .crash .noPath, errors := notices } else
    let outcome := runCommand lib files settings request.command
    let (exit, output) := printer.print outcome.exit outcome.texts
    let level := requestLevel request settings
    let shown := outcome.log.filter fun l => level ≤ l.rank
    { exit, output, errors := notices ++ String.join (shown.map (·.text)) }

def runProgram (arguments : List String) : Printed :=
  match Request.read arguments with
  | .error (.help text) =>
    let (exit, output) := printer.print (.code 0) [text]
    { exit, output }
  | .error ending => { exit := .code 2, errors := ending.text }
  | .ok request => runRequest lib printer environment files request

end

end FluentBuilder
