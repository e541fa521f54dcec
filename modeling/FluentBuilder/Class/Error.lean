import FluentBuilder.Class.Basic
import FluentBuilder.Pattern.Error
import FluentBuilder.TypeRef.Reader

/-!
Why no builder can be derived. A generation error names what is wrong with a class or its document;
a fault is an operation that a value of the given kind does not have.
-/

namespace FluentBuilder

open Number Text

inductive ClassError
  | className (name : String)
  | parameterName (name owner : String)
  | parameterTwice (name owner : String)
  | fieldName (name owner : String)
  | fieldTwice (name owner : String)
  | untyped (field owner : String)
  | noElement (field owner : String)
  | foreignConstraint (field owner : String) (value : Value)

def ClassError.message : ClassError → String
  | .className name => "Class name " ++ quoted name ++ " is not a valid identifier."
  | .parameterName name owner =>
    "Type parameter " ++ quoted name ++ " of " ++ owner ++ " is not a valid identifier."
  | .parameterTwice name owner =>
    "Type parameter '" ++ name ++ "' is declared twice on " ++ owner ++ "."
  | .fieldName name owner =>
    "Field name " ++ quoted name ++ " of " ++ owner ++ " is not a valid identifier."
  | .fieldTwice name owner => "Field '" ++ name ++ "' is declared twice on " ++ owner ++ "."
  | .untyped field owner => "Field '" ++ field ++ "' of " ++ owner ++ " has no declared type."
  | .noElement field owner =>
    "Array field '" ++ field ++ "' of " ++ owner ++ " has no element type."
  | .foreignConstraint field owner value =>
    "Field '" ++ field ++ "' of " ++ owner ++ " carries an unsupported constraint " ++
      value.literal ++ "."

inductive DocumentError
  | type (error : TypeError)
  | unreadableConstraint (entry : Value)
  | unknownConstraint (tag : Value)
  | noOptions (tag options : Value)
  | noFlag (tag : Value) (option : String) (value : Value)
  | noRegex (value : Value)
  | fieldEntry (value : Value)
  | unnamedField (value : Value)
  | untypedField (name : String)
  | constraintList (field : String)
  | classEntry (value : Value)
  | unnamedClass
  | classList (key owner : String)
  | noClasses
  | unreadableFile (path reason : String)
  | malformedFile (path reason : String)

def DocumentError.message : DocumentError → String
  | .type e => e.message
  | .unreadableConstraint entry => "Cannot read constraint " ++ entry.literal ++ "."
  | .unknownConstraint tag => "Unknown constraint kind " ++ tag.literal ++ "."
  | .noOptions tag options =>
    "Constraint " ++ tag.literal ++ " needs a mapping of options, got " ++ options.literal ++ "."
  | .noFlag tag option value =>
    "Constraint " ++ tag.literal ++ " option '" ++ option ++ "' must be true or false, got " ++
      value.literal ++ "."
  | .noRegex value => "Pattern constraint needs a regex string, got " ++ value.literal ++ "."
  | .fieldEntry value => "Field entries must be mappings, got " ++ value.literal ++ "."
  | .unnamedField value => "Field entry " ++ value.literal ++ " has no name."
  | .untypedField name => "Field '" ++ name ++ "' has no type."
  | .constraintList field => "Constraints of field '" ++ field ++ "' must be a list."
  | .classEntry value => "A class must be described by a mapping, got " ++ value.literal ++ "."
  | .unnamedClass => "Class description has no name."
  | .classList key owner => "'" ++ key ++ "' of class " ++ owner ++ " must be a list."
  | .noClasses => "Document describes no classes."
  | .unreadableFile path reason => "Cannot read " ++ path ++ ": " ++ reason
  | .malformedFile path reason => path ++ " is not valid YAML: " ++ reason

/-- How a constraint does not fit its field, or contradicts itself. -/
inductive ConstraintFlaw
  | neverNull (type : String)
  | notNumeric (type : String)
  | noBounds
  | boundNotNumber (bound : Value)
  | minAboveMax (low high : Value)
  | noValueBetween (low high : Value)
  | neverEmpty (type : String)
  | notSized (type : String)
  | sizeNotInteger (bound : Value)
  | sizeNegative (bound : Int)
  | minSizeAboveMax (low high : Int)
  | notText (type : String)
  | malformedPattern (regex : Value) (reason : String)

def ConstraintFlaw.message : ConstraintFlaw → String
  | .neverNull type => "type '" ++ type ++ "' can never be null"
  | .notNumeric type => "range bounds need a numeric type, not '" ++ type ++ "'"
  | .noBounds => "neither a minimum nor a maximum is given"
  | .boundNotNumber bound => "bound " ++ bound.literal ++ " is not a number"
  | .minAboveMax low high => "minimum " ++ low.plain ++ " is greater than maximum " ++ high.plain
  | .noValueBetween low high =>
    "exclusive bounds leave no value between " ++ low.plain ++ " and " ++ high.plain
  | .neverEmpty type => "only text, arrays and sequences can be empty, not '" ++ type ++ "'"
  | .notSized type => "size bounds need text, an array or a sequence, not '" ++ type ++ "'"
  | .sizeNotInteger bound => "size bound " ++ bound.literal ++ " is not an integer"
  | .sizeNegative bound => "size bound " ++ intText bound ++ " is negative"
  | .minSizeAboveMax low high =>
    "minimum size " ++ intText low ++ " is greater than maximum size " ++ intText high
  | .notText type => "patterns apply to text only, not '" ++ type ++ "'"
  | .malformedPattern regex reason =>
    "pattern " ++ regex.literal ++ " does not parse: " ++ reason

inductive GenerationError
  | badClass (error : ClassError)
  | badDocument (error : DocumentError)
  | invalidConstraint (field : String) (constraint : Constraint) (flaw : ConstraintFlaw)
  | nameCollision (synthesized existing : String)

def GenerationError.message : GenerationError → String
  | .badClass e => e.message
  | .badDocument e => e.message
  | .invalidConstraint field constraint flaw =>
    "Invalid " ++ constraint.kind ++ " constraint on field '" ++ field ++ "': " ++ flaw.message
  | .nameCollision synthesized existing =>
    "Generated name '" ++ synthesized ++ "' collides with existing member '" ++ existing ++ "'"

/-- An operation that a value does not have. -/
inductive Fault
  | integerTooLarge
  | quotientTooLarge
  | noType (asked : String)
  | noElementType
  | keyFault (fault : KeyFault)
  | patternNotText
  | bytesInExpression
  | repetitionTooLarge
  | codeTooLarge
  | asciiAndUnicode
  | asciiAndLocale
  | spoiledGroup
  | longNumber (digits : Option Nat)
  deriving DecidableEq

def Fault.message : Fault → String
  | .integerTooLarge => "int too large to convert to float"
  | .quotientTooLarge => "integer division result too large for a float"
  | .noType asked => "'NoneType' object has no attribute '" ++ asked ++ "'"
  | .noElementType => "'NoneType' object has no attribute 'render'"
  | .keyFault (.mutable kind) => "unhashable type: '" ++ kind ++ "'"
  | .keyFault .signalingNaN => "Cannot hash a signaling NaN value"
  | .patternNotText => "first argument must be string or compiled pattern"
  | .bytesInExpression => "Object of type bytes is not JSON serializable"
  | .repetitionTooLarge => "the repetition number is too large"
  | .codeTooLarge => "Python int too large to convert to C int"
  | .asciiAndUnicode => "ASCII and UNICODE flags are incompatible"
  | .asciiAndLocale => "ASCII and LOCALE flags are incompatible"
  | .spoiledGroup =>
    "The span of capturing group is wrong, please report a bug for the re module."
  | .longNumber digits => longNumberMessage digits

/-- The values that the message of a contradiction in a class shows. -/
def ClassError.shown : ClassError → List Value
  | .foreignConstraint _ _ value => [value]
  | _ => []

def DocumentError.shown : DocumentError → List Value
  | .unreadableConstraint v | .unknownConstraint v | .noRegex v | .fieldEntry v | .unnamedField v
  | .classEntry v => [v]
  | .noOptions tag options => [tag, options]
  | .noFlag tag _ value => [tag, value]
  | _ => []

def ConstraintFlaw.shown : ConstraintFlaw → List Value
  | .boundNotNumber bound | .sizeNotInteger bound => [bound]
  | .minAboveMax low high | .noValueBetween low high => [low, high]
  | .sizeNegative bound => [.int bound]
  | .minSizeAboveMax low high => [.int low, .int high]
  | _ => []

def GenerationError.shown : GenerationError → List Value
  | .badClass e => e.shown
  | .badDocument e => e.shown
  | .invalidConstraint _ _ flaw => flaw.shown
  | .nameCollision .. => []

inductive Failure
  | generation (error : GenerationError)
  | fault (fault : Fault)

/-- The failure that an error makes: itself, unless its message has a number too long to be
written. -/
def GenerationError.failure (e : GenerationError) : Failure :=
  if e.shown.any (·.hasLongNumber) then .fault (.longNumber none) else .generation e

def Failure.message : Failure → String
  | .generation e => e.message
  | .fault f => f.message

end FluentBuilder
