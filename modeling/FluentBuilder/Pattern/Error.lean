import FluentBuilder.Number.Numeral
import FluentBuilder.Text.Literal

/-!
Why a pattern does not parse. Most faults have a place in the pattern; a pattern of several lines
has it shown as a line and a column too.
-/

namespace FluentBuilder.Pattern

open Number Text

inductive Fault
  | danglingBackslash
  | incompleteEscape (escape : String)
  | badEscape (escape : String)
  | missingBrace
  | missingName (what : String)
  | unterminatedName (terminator : Char)
  | unknownCharacter (name : String)
  | octalTooLarge (escape : String)
  | openGroup
  | sameLookBehind
  | invalidReference (index : Nat)
  | unterminatedSet
  | badRange (first last : String)
  | leastAboveMost
  | nothingToRepeat
  | multipleRepeat
  | unexpectedEnd
  | badName (name : String)
  | unknownName (name : String)
  | redefinedName (name : String) (new old : Nat)
  | unknownExtension (text : String)
  | unterminatedComment
  | unterminatedGroup
  | tooManyBranches
  | badGroupNumber
  | misplacedFlags
  | unbalanced
  | localeFlag
  | unicodeFlag
  | alphabetsTogether
  | unknownFlag
  | missing (what : String)
  | globalFlagOn
  | globalFlagOff
  | alphabetOff
  | flagOnAndOff
  | variableLookBehind
  | templateOperator (name : String)
  deriving DecidableEq, Inhabited

def Fault.message : Fault → String
  | .danglingBackslash => "bad escape (end of pattern)"
  | .incompleteEscape escape => "incomplete escape " ++ escape
  | .badEscape escape => "bad escape " ++ escape
  | .missingBrace => "missing \x7b"
  | .missingName what => "missing " ++ what
  | .unterminatedName terminator => "missing " ++ terminator.toString ++ ", unterminated name"
  | .unknownCharacter name => "undefined character name " ++ quoted name
  | .octalTooLarge escape => "octal escape value " ++ escape ++ " outside of range 0-0o377"
  | .openGroup => "cannot refer to an open group"
  | .sameLookBehind => "cannot refer to group defined in the same lookbehind subpattern"
  | .invalidReference index => "invalid group reference " ++ natText index
  | .unterminatedSet => "unterminated character set"
  | .badRange first last => "bad character range " ++ first ++ "-" ++ last
  | .leastAboveMost => "min repeat greater than max repeat"
  | .nothingToRepeat => "nothing to repeat"
  | .multipleRepeat => "multiple repeat"
  | .unexpectedEnd => "unexpected end of pattern"
  | .badName name => "bad character in group name " ++ quoted name
  | .unknownName name => "unknown group name " ++ quoted name
  | .redefinedName name new old =>
    "redefinition of group name " ++ quoted name ++ " as group " ++ natText new ++ "; was group " ++
      natText old
  | .unknownExtension text => "unknown extension ?" ++ text
  | .unterminatedComment => "missing ), unterminated comment"
  | .unterminatedGroup => "missing ), unterminated subpattern"
  | .tooManyBranches => "conditional backref with more than two branches"
  | .badGroupNumber => "bad group number"
  | .misplacedFlags => "global flags not at the start of the expression"
  | .unbalanced => "unbalanced parenthesis"
  | .localeFlag => "bad inline flags: cannot use 'L' flag with a str pattern"
  | .unicodeFlag => "bad inline flags: cannot use 'u' flag with a bytes pattern"
  | .alphabetsTogether => "bad inline flags: flags 'a', 'u' and 'L' are incompatible"
  | .unknownFlag => "unknown flag"
  | .missing what => "missing " ++ what
  | .globalFlagOn => "bad inline flags: cannot turn on global flag"
  | .globalFlagOff => "bad inline flags: cannot turn off global flag"
  | .alphabetOff => "bad inline flags: cannot turn off flags 'a', 'u' and 'L'"
  | .flagOnAndOff => "bad inline flags: flag turned on and off"
  | .variableLookBehind => "look-behind requires fixed-width pattern"
  | .templateOperator name => "internal: unsupported template operator " ++ name

structure Error where
  fault : Fault
  position : Option Nat := none
  deriving DecidableEq, Inhabited

/-- Line and column of a position, both from one. -/
def lineAndColumn (pattern : List Nat) (position : Nat) : Nat × Nat :=
  let lineFeed := '\n'.toNat
  let before := pattern.take position
  (before.count lineFeed + 1, (before.reverse.takeWhile (· ≠ lineFeed)).length + 1)

/-- A text in ASCII; other characters, which stand for bytes, are escaped. -/
def asciiText (s : String) : String :=
  String.ofList (s.toList.flatMap fun c =>
    if c.toNat < 128 then [c] else '\\' :: 'x' :: hexDigits 2 c.toNat)

def Error.message (e : Error) (pattern : List Char) (isText : Bool) : String :=
  let fault := if isText then e.fault.message else asciiText e.fault.message
  match e.position with
  | none => fault
  | some position =>
    let placed := fault ++ " at position " ++ natText position
    if pattern.contains '\n' then
      let (line, column) := lineAndColumn (codes pattern) position
      placed ++ " (line " ++ natText line ++ ", column " ++ natText column ++ ")"
    else placed

/-- Why a pattern is refused: a fault, a number beyond all bounds, or two alphabets chosen for the
whole pattern. -/
inductive Refusal
  | malformed (error : Error)
  | hugeRepetition
  | hugeCode
  | longNumber (digits : Nat)
  | asciiAndUnicode
  | asciiAndLocale
  deriving DecidableEq, Inhabited

end FluentBuilder.Pattern
