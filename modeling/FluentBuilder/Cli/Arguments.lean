import FluentBuilder.Text.Alphanumeric
import FluentBuilder.Text.Literal

/-!
Arguments of a command line: options by name, of which a part that begins no other option's name is
enough, and operands. Reading goes from left to right and shows what it finds step by step, so that
an option can end the run before a later mistake is met.
-/

namespace FluentBuilder

/-- An option: its names, whether it takes a value, and the values it may have if not all. -/
structure OptionForm where
  names : List String
  takesValue : Bool := false
  choices : List String := []
  deriving DecidableEq

def OptionForm.label (f : OptionForm) : String := "/".intercalate f.names

/-- What stands beside the options: one value, or a command with all that follows it. -/
inductive Operand
  | value (label : String)
  | command (label : String) (choices : List String)

def Operand.label : Operand → String
  | .value label | .command label _ => label

structure Grammar where
  options : List OptionForm
  operand : Operand

inductive UsageError
  | ambiguous (given : String) (candidates : List String)
  | unwantedValue (label value : String)
  | missingValue (label : String)
  | badChoice (label value : String) (choices : List String)
  | missingOperand (label : String)
  | unrecognized (arguments : List String)

def UsageError.message : UsageError → String
  | .ambiguous given candidates =>
    "ambiguous option: " ++ given ++ " could match " ++ ", ".intercalate candidates
  | .unwantedValue label value =>
    "argument " ++ label ++ ": ignored explicit argument " ++ Text.quoted value
  | .missingValue label => "argument " ++ label ++ ": expected one argument"
  | .badChoice label value choices =>
    "argument " ++ label ++ ": invalid choice: " ++ Text.quoted value ++ " (choose from " ++
      ", ".intercalate (choices.map Text.quoted) ++ ")"
  | .missingOperand label => "the following arguments are required: " ++ label
  | .unrecognized arguments => "unrecognized arguments: " ++ " ".intercalate arguments

/-- An option as it is written: its form unless it is unknown, the name, and what is written in the
same argument behind the name. -/
structure OptionUse where
  form : Option OptionForm
  name : String
  attached : Option String := none

/-- An argument: an option, a word, or the sign behind which all are words. -/
inductive Argument
  | option (text : String) (use : OptionUse)
  | word (text : String)
  | separator

def Argument.text : Argument → String
  | .option text _ | .word text => text
  | .separator => "--"

namespace Grammar

/-- All names with their options. -/
def named (g : Grammar) : List (String × OptionForm) :=
  g.options.flatMap fun f => f.names.map (·, f)

/-- The text before the first equals sign, and the text behind it if there is a sign. -/
def splitEquals (s : String) : String × Option String :=
  match s.toList.dropWhile (· ≠ '=') with
  | [] => (s, none)
  | _ :: rest => (String.ofList (s.toList.takeWhile (· ≠ '=')), some (String.ofList rest))

/-- The options that an abbreviated argument can mean. -/
def candidates (g : Grammar) (s : String) : List OptionUse :=
  if s.startsWith "--" then
    let (stem, value) := splitEquals s
    (g.named.filter fun (name, _) => name.startsWith stem).map fun (name, form) =>
      { form, name, attached := value }
  else
    let short := String.ofList (s.toList.take 2)
    g.named.filterMap fun (name, form) =>
      if name = short then
        some { form, name, attached := some (String.ofList (s.toList.drop 2)) }
      else if name.startsWith s then some { form, name }
      else none

/-- A negative number: digits, perhaps with a point, behind a hyphen. A line feed may end it. -/
def isNegativeNumber (s : String) : Bool :=
  let isDigit (c : Char) : Bool := Text.isDecimalDigitCode c.toNat
  let cs := s.toList
  match if cs.getLast? = some '\n' then cs.dropLast else cs with
  | '-' :: body =>
    match body.dropWhile isDigit with
    | [] => !body.isEmpty
    | '.' :: digits => !digits.isEmpty && digits.all isDigit
    | _ => false
  | _ => false

/-- What an argument is that begins with a hyphen, is no name and has more than one character. -/
def classifyOption (g : Grammar) (s : String) : Except UsageError Argument :=
  let (stem, value) := splitEquals s
  match value, g.named.lookup stem with
  | some value, some form =>
    .ok (.option s { form, name := stem, attached := some value })
  | _, _ =>
    match g.candidates s with
    | [use] => .ok (.option s use)
    | [] =>
      if isNegativeNumber s || s.toList.contains ' ' then .ok (.word s)
      else .ok (.option s { form := none, name := s })
    | uses => .error (.ambiguous s (uses.map (·.name)))

def classify (g : Grammar) (s : String) : Except UsageError Argument :=
  if !s.startsWith "-" then .ok (.word s)
  else match g.named.lookup s with
    | some form => .ok (.option s { form, name := s })
    | none => if s.length = 1 then .ok (.word s) else g.classifyOption s

def classifyAll (g : Grammar) : List String → Except UsageError (List Argument)
  | [] => .ok []
  | s :: rest =>
    if s = "--" then .ok (.separator :: rest.map .word)
    else do
      let argument ← g.classify s
      return argument :: (← classifyAll g rest)

end Grammar

/-- What is found in the arguments: an option with its value if it takes one and has one, or an
operand. -/
inductive Given
  | option (form : OptionForm) (value : Option String)
  | operand (words : List String)

/-- All that is found, what is left over, and the error that ended reading. -/
structure Parse where
  given : List Given := []
  extras : List String := []
  error : Option UsageError := none

namespace Parse

/-- The parse with something found before it. -/
def found (given : Given) (p : Parse) : Parse := { p with given := given :: p.given }

def leftOver (text : String) (p : Parse) : Parse := { p with extras := text :: p.extras }

def failed (e : UsageError) : Parse := { error := some e }

/-- The parse with an option before it, whose value must be one of its choices. -/
def withOption (form : OptionForm) (value : Option String) (p : Parse) : Parse :=
  match value with
  | some v =>
    if form.choices.isEmpty || form.choices.contains v then p.found (.option form value)
    else failed (.badChoice form.label v form.choices)
  | none => p.found (.option form none)

/-- The parse with the operand before it; a command must be one of the choices. -/
def withOperand (operand : Operand) (words : List String) (p : Parse) : Parse :=
  match operand, words with
  | .command label choices, name :: _ =>
    if choices.contains name then p.found (.operand words)
    else failed (.badChoice label name choices)
  | _, _ => p.found (.operand words)

end Parse

namespace Grammar

/-- The options without values that are written together behind one hyphen, the first of which is
known already. What begins with no option is no value that the option before it wants. -/
def bundled (g : Grammar) (form : OptionForm) : List Char → Except UsageError (List OptionForm)
  | [] => .ok [form]
  | c :: rest =>
    match g.named.lookup (String.ofList ['-', c]) with
    | none => .error (.unwantedValue form.label (String.ofList (c :: rest)))
    | some next => (g.bundled next rest).map (form :: ·)

/-- An option with what is attached to it. The sign behind which all are words is no value, here
too. -/
def attachedOption (g : Grammar) (form : OptionForm) (name value : String) (p : Parse) : Parse :=
  if form.takesValue then p.withOption form (if value = "--" then none else some value)
  else if name.startsWith "--" || value = "" then .failed (.unwantedValue form.label value)
  else match g.bundled form value.toList with
    | .error e => .failed e
    | .ok forms => forms.foldr (fun f p => p.withOption f none) p

/-- Reads the operand that begins with a word, given what follows it as words, and as it is read
when the operand is one value. -/
def withWord (g : Grammar) (word : String) (following : List String) (after : Parse) : Parse :=
  match g.operand with
  | .value _ => after.withOperand g.operand [word]
  | .command .. => Parse.withOperand g.operand (word :: following) {}

/-- Reads arguments. The operand, as long as it is wanted, is read as soon as a word is met. -/
def parseFrom (g : Grammar) : Bool → List Argument → Parse
  | true, [] => .failed (.missingOperand g.operand.label)
  | false, [] => {}
  | wanted, .option text { form := none, .. } :: rest => (g.parseFrom wanted rest).leftOver text
  | wanted, .option _ { form := some form, name, attached := some value } :: rest =>
    g.attachedOption form name value (g.parseFrom wanted rest)
  | wanted, .option _ { form := some form, attached := none, .. } :: .word value :: rest =>
    if form.takesValue then (g.parseFrom wanted rest).withOption form (some value)
    else (g.parseFrom wanted (.word value :: rest)).withOption form none
  | wanted, .option _ { form := some form, attached := none, .. } :: rest =>
    if form.takesValue then .failed (.missingValue form.label)
    else (g.parseFrom wanted rest).withOption form none
  | false, argument :: rest => (g.parseFrom false rest).leftOver argument.text
  | true, .separator :: .word w :: rest =>
    match g.operand with
    | .value _ => (g.parseFrom false rest).withOperand g.operand [w]
    | .command .. =>
      Parse.withOperand g.operand ("--" :: w :: rest.map (·.text)) {}
  | true, .word w :: .separator :: rest =>
    g.withWord w ("--" :: rest.map (·.text)) (g.parseFrom false rest)
  | true, .word w :: rest => g.withWord w (rest.map (·.text)) (g.parseFrom false rest)
  | true, .separator :: rest => (g.parseFrom true rest).leftOver "--"

def parse (g : Grammar) (arguments : List String) : Parse :=
  match g.classifyAll arguments with
  | .error e => .failed e
  | .ok arguments => g.parseFrom true arguments

end Grammar

end FluentBuilder
