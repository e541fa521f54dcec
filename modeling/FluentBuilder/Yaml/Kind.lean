import FluentBuilder.Number.Numeral

/-!
Kinds of nodes. A tag names a kind; a plain text without a tag has the kind that its spelling shows.
-/

namespace FluentBuilder.Yaml

open Number

inductive Kind
  | null
  | bool
  | int
  | float
  | binary
  | timestamp
  | text
  | sequence
  | mapping
  | set
  | pairs
  | merge
  | defaultKey
  | unknown
  deriving DecidableEq

/-- What the names of the kinds begin with in full tags. -/
def coreStem : String := "tag:yaml.org,2002:"

/-- The names of the kinds in tags. An ordered mapping is a list of pairs. -/
def kindNames : List (String × Kind) :=
  [("null", .null), ("bool", .bool), ("int", .int), ("float", .float), ("binary", .binary),
    ("timestamp", .timestamp), ("str", .text), ("seq", .sequence), ("map", .mapping),
    ("set", .set), ("omap", .pairs), ("pairs", .pairs), ("merge", .merge), ("value", .defaultKey)]

def Kind.ofTag (tag : String) : Kind :=
  ((kindNames.map fun (name, kind) => (coreStem ++ name, kind)).lookup tag).getD .unknown

/-- The spellings of truth values, in three cases each. -/
def truthWords : List String :=
  ["yes", "Yes", "YES", "no", "No", "NO", "true", "True", "TRUE", "false", "False", "FALSE", "on",
    "On", "ON", "off", "Off", "OFF"]

def nullWords : List String := ["~", "null", "Null", "NULL", ""]

def isLooseDigit (c : Char) : Bool := isDigit c || c = '_'

/-- The text without a sign at its start. -/
def unsigned (cs : List Char) : List Char := (splitSign cs).2

/-- A non-empty run of characters that pass the test. -/
def isRun (test : Char → Bool) (cs : List Char) : Bool := !cs.isEmpty && cs.all test

/-- A number below sixty in one or two digits. -/
def isSexagesimalDigit : List Char → Bool
  | [c] => isDigit c
  | [c, d] => '0' ≤ c && c ≤ '5' && isDigit d
  | _ => false

def colonParts : List Char → List (List Char)
  | [] => [[]]
  | c :: cs =>
    if c = ':' then [] :: colonParts cs
    else match colonParts cs with
      | [] => [[c]]
      | part :: parts => (c :: part) :: parts

/-- A run of loose digits that begins with a digit. -/
def isLooseNumber : List Char → Bool
  | [] => false
  | c :: cs => isDigit c && cs.all isLooseDigit

def isLooseNonzero (cs : List Char) : Bool := isLooseNumber cs && cs.head? != some '0'

/-- The spelling of an integer: binary, octal, decimal, hexadecimal, or of base sixty. -/
def isIntSpelling (cs : List Char) : Bool :=
  match unsigned cs with
  | '0' :: 'b' :: rest => isRun (fun c => c = '0' || c = '1' || c = '_') rest
  | '0' :: 'x' :: rest => isRun (fun c => (digitOf? 16 c).isSome || c = '_') rest
  | ['0'] => true
  | '0' :: rest => isRun (fun c => ('0' ≤ c && c ≤ '7') || c = '_') rest
  | body =>
    match colonParts body with
    | first :: rest => isLooseNonzero first && rest.all isSexagesimalDigit
    | [] => false

def isExponentOrNone : List Char → Bool
  | [] => true
  | e :: sign :: digits =>
    (e = 'e' || e = 'E') && (sign = '-' || sign = '+') && isRun isDigit digits
  | _ => false

def splitPoint (cs : List Char) : List Char × Option (List Char) :=
  match cs.dropWhile (· ≠ '.') with
  | [] => (cs, none)
  | _ :: rest => (cs.takeWhile (· ≠ '.'), some rest)

/-- The spelling of a number with a point, perhaps of base sixty. -/
def isPointed (cs : List Char) : Bool :=
  match splitPoint (unsigned cs) with
  | (_, none) => false
  | (whole, some rest) =>
    let tail := rest.dropWhile isLooseDigit
    match colonParts whole with
    | [_] => isLooseNumber whole && isExponentOrNone tail
    | first :: parts => isLooseNumber first && parts.all isSexagesimalDigit && tail.isEmpty
    | [] => false

def isBarePointed : List Char → Bool
  | '.' :: c :: cs => isDigit c && isExponentOrNone (cs.dropWhile isLooseDigit)
  | _ => false

def isFloatSpelling (cs : List Char) : Bool :=
  isPointed cs || isBarePointed cs ||
    [".inf", ".Inf", ".INF"].contains (String.ofList (unsigned cs)) ||
    [".nan", ".NaN", ".NAN"].contains (String.ofList cs)

/-- The text without its digits at the start, if their number is allowed. -/
def dropDigits? (least most : Nat) (cs : List Char) : Option (List Char) :=
  let run := (cs.takeWhile isDigit).length
  let taken := min run most
  if least ≤ taken then some (cs.drop taken) else none

def dropChar? (c : Char) : List Char → Option (List Char)
  | d :: rest => if d = c then some rest else none
  | [] => none

def isBlankChar (c : Char) : Bool := c = ' ' || c = '\t'

def isZoneOrNone (cs : List Char) : Bool :=
  cs.isEmpty ||
  match cs.dropWhile isBlankChar with
  | ['Z'] => true
  | sign :: rest =>
    (sign = '-' || sign = '+') &&
      match dropDigits? 1 2 rest with
      | some [] => true
      | some (':' :: minutes) => minutes.length == 2 && minutes.all isDigit
      | _ => false
  | [] => false

/-- The spelling of a time of day behind a date, up to the end. -/
def isTimeSpelling (cs : List Char) : Bool :=
  let hours? := match cs with
    | c :: rest =>
      if c = 'T' ∨ c = 't' then some rest
      else if isBlankChar c then some (rest.dropWhile isBlankChar)
      else none
    | [] => none
  let rest? := do
    let rest ← dropDigits? 1 2 (← hours?)
    let rest ← dropDigits? 2 2 (← dropChar? ':' rest)
    dropDigits? 2 2 (← dropChar? ':' rest)
  match rest? with
  | none => false
  | some ('.' :: rest) => isZoneOrNone (rest.dropWhile isDigit)
  | some rest => isZoneOrNone rest

/-- A date with digits for month and day, at least so many each, and the text behind it. -/
def dropDate? (least : Nat) (cs : List Char) : Option (List Char) := do
  let rest ← dropDigits? 4 4 cs
  let rest ← dropDigits? least 2 (← dropChar? '-' rest)
  dropDigits? least 2 (← dropChar? '-' rest)

def isTimestampSpelling (cs : List Char) : Bool :=
  dropDate? 2 cs == some [] || (dropDate? 1 cs).any isTimeSpelling

def withoutLineEnd (cs : List Char) : List Char :=
  if cs.getLast? = some '\n' then cs.dropLast else cs

/-- The kind that the spelling of a plain text shows. A line feed at its end does not count, unless
it is all there is. -/
def Kind.ofPlain (text : List Char) : Kind :=
  let cs := if text = ['\n'] then text else withoutLineEnd text
  let word := String.ofList cs
  if truthWords.contains word then .bool
  else if isFloatSpelling cs then .float
  else if isIntSpelling cs then .int
  else if word = "<<" then .merge
  else if nullWords.contains word then .null
  else if isTimestampSpelling cs then .timestamp
  else if word = "=" then .defaultKey
  else if word = "!" ∨ word = "&" ∨ word = "*" then .unknown
  else .text

end FluentBuilder.Yaml
