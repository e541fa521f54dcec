import FluentBuilder.Cli.Arguments
import FluentBuilder.Report.Level
import FluentBuilder.Settings.Basic

/-!
The command line: what it takes, its help, and what a run is asked for. Options stand before the
command they do not belong to.
-/

namespace FluentBuilder

def programName : String := logName

def helpOption : OptionForm := { names := ["-h", "--help"] }

def envFileOption : OptionForm := { names := ["--env-file"], takesValue := true }

def logLevelOption : OptionForm := { names := ["--log-level"], takesValue := true }

def formatOption : OptionForm :=
  { names := ["--format"], takesValue := true, choices := outputFormats }

def docsOption : OptionForm := { names := ["--docs"] }

def classOption : OptionForm := { names := ["--class"], takesValue := true }

inductive CommandName
  | describe
  | check
  deriving DecidableEq

def CommandName.word : CommandName → String
  | .describe => "describe"
  | .check => "check"

def CommandName.ofWord? (word : String) : Option CommandName :=
  [CommandName.describe, .check].find? (·.word == word)

def programGrammar : Grammar where
  options := [helpOption, envFileOption, logLevelOption]
  operand := .command "command" [CommandName.describe.word, CommandName.check.word]

def CommandName.grammar : CommandName → Grammar
  | .describe =>
    { options := [helpOption, formatOption, docsOption, classOption], operand := .value "path" }
  | .check => { options := [helpOption], operand := .value "path" }

def programUsage : String :=
  "usage: buildergen [-h] [--env-file ENV_FILE] [--log-level LOG_LEVEL]\n" ++
  "                  \x7bdescribe,check\x7d ...\n"

def programHelp : String :=
  programUsage ++ "\n" ++
  "Derive builder types from class descriptions\n\n" ++
  "positional arguments:\n" ++
  "  \x7bdescribe,check\x7d\n" ++
  "    describe            Print the builder description for each class\n" ++
  "    check               Validate class descriptions without printing builders\n\n" ++
  "options:\n" ++
  "  -h, --help            show this help message and exit\n" ++
  "  --env-file ENV_FILE   Path to a .env file to read before executing commands.\n" ++
  "                        Can be provided multiple times.\n" ++
  "  --log-level LOG_LEVEL\n" ++
  "                        Logging level override (e.g. DEBUG)\n"

def CommandName.usage : CommandName → String
  | .describe =>
    "usage: buildergen describe [-h] [--format \x7byaml,json\x7d] [--docs]\n" ++
    "                           [--class CLASS_NAME]\n" ++
    "                           path\n"
  | .check => "usage: buildergen check [-h] path\n"

def CommandName.help (c : CommandName) : String :=
  c.usage ++ "\npositional arguments:\n" ++
  match c with
  | .describe =>
    "  path                  YAML or JSON file with class descriptions\n\n" ++
    "options:\n" ++
    "  -h, --help            show this help message and exit\n" ++
    "  --format \x7byaml,json\x7d  Output format (default: BUILDERGEN_OUTPUT_FORMAT or\n" ++
    "                        yaml)\n" ++
    "  --docs                Attach setter documentation to the output\n" ++
    "  --class CLASS_NAME    Only describe the named class\n"
  | .check =>
    "  path        YAML or JSON file with class descriptions\n\n" ++
    "options:\n" ++
    "  -h, --help  show this help message and exit\n"

structure DescribeOptions where
  format : Option String := none
  docs : Bool := false
  className : Option String := none
  deriving DecidableEq

inductive Command
  | describe (path : String) (options : DescribeOptions)
  | check (path : String)
  deriving DecidableEq

/-- What a run is asked for. A file of variables can be asked for without a name. -/
structure Request where
  envFiles : List (Option String) := []
  logLevel : Option String := none
  command : Command
  deriving DecidableEq

/-- The files of variables that are read: those up to the first one without a name. -/
def Request.namedFiles (r : Request) : List String :=
  (r.envFiles.takeWhile (·.isSome)).filterMap id

/-- A run that ends with its arguments: help, or a mistake in them. -/
inductive Ending
  | help (text : String)
  | mistake (usage program : String) (error : UsageError)

def Ending.text : Ending → String
  | .help text => text
  | .mistake usage program error => usage ++ program ++ ": error: " ++ error.message ++ "\n"

/-- The value of the last use of an option. -/
def lastValue? (form : OptionForm) (given : List Given) : Option String :=
  given.foldl (fun last g =>
    match g with
    | .option f value => if f = form then value else last
    | .operand _ => last) none

def allValues (form : OptionForm) (given : List Given) : List (Option String) :=
  given.filterMap fun
    | .option f value => if f = form then some value else none
    | .operand _ => none

def isUsed (form : OptionForm) (given : List Given) : Bool :=
  given.any fun
    | .option f _ => f == form
    | .operand _ => false

def operandWords (given : List Given) : List String :=
  (given.findSome? fun
    | .operand words => some words
    | .option .. => none).getD []

/-- Help that is asked for, or else the mistake. -/
def endingOf (help usage program : String) (p : Parse) : Option Ending :=
  if isUsed helpOption p.given then some (.help help) else p.error.map (.mistake usage program ·)

/-- The command that the arguments behind its name describe, and what is left over. -/
def CommandName.read (c : CommandName) (arguments : List String) :
    Except Ending (Command × List String) :=
  let p := c.grammar.parse arguments
  match endingOf c.help c.usage (programName ++ " " ++ c.word) p with
  | some ending => .error ending
  | none =>
    let path := (operandWords p.given).headD ""
    .ok (match c with
      | .describe =>
        .describe path
          { format := lastValue? formatOption p.given, docs := isUsed docsOption p.given
            className := lastValue? classOption p.given }
      | .check => .check path, p.extras)

def Request.read (arguments : List String) : Except Ending Request := do
  let p := programGrammar.parse arguments
  let refuse (e : UsageError) : Except Ending Request :=
    .error (.mistake programUsage programName e)
  if let some ending := endingOf programHelp programUsage programName p then throw ending
  match operandWords p.given with
  | [] => refuse (.missingOperand programGrammar.operand.label)
  | word :: rest =>
    match CommandName.ofWord? word with
    | none =>
      refuse (.badChoice programGrammar.operand.label word
        [CommandName.describe.word, CommandName.check.word])
    | some c => do
      let (command, extras) ← c.read rest
      let leftOver := p.extras ++ extras
      if !leftOver.isEmpty then refuse (.unrecognized leftOver)
      else return { envFiles := allValues envFileOption p.given,
                    logLevel := lastValue? logLevelOption p.given, command }

end FluentBuilder
