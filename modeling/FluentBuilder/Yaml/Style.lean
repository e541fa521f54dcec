import FluentBuilder.Yaml.Kind
import FluentBuilder.Yaml.Place

/-!
How a text is written: as it is where that reads back as the same text, otherwise between single
quotes, and between double quotes if it has characters that need escapes.
-/

namespace FluentBuilder.Yaml

inductive Style
  | plain
  | single
  | double
  deriving DecidableEq

/-- A character that needs no escape: printable ASCII or a line feed. -/
def isSimpleChar (c : Char) : Bool := c = '\n' || (' ' ≤ c && c ≤ '~')

/-- A line break next to a space, with the break or the space first. -/
def hasPair (first second : Char → Bool) : List Char → Bool
  | [] => false
  | [_] => false
  | c :: d :: cs => (first c && second d) || hasPair first second (d :: cs)

/-- The signs with which no plain text begins, whatever follows. -/
def leadingSigns : List Char :=
  ['#', ',', '[', ']', '\x7b', '\x7d', '&', '*', '!', '|', '>', '\'', '"', '%', '@', '\x60']

def gapFollows (cs : List Char) : Bool := isGap (cs.head?.getD endMark)

/-- A sign behind the first character ends a plain text: a colon with a gap behind it, or a number
sign behind a gap. -/
def hasInnerSign (before : Char) : List Char → Bool
  | [] => false
  | c :: cs => (c = ':' && gapFollows cs) || (c = '#' && isGap before) || hasInnerSign c cs

def hasLeadingSign : List Char → Bool
  | [] => false
  | c :: cs =>
    leadingSigns.contains c || (['?', ':', '-'].contains c && gapFollows cs) ||
      "---".toList.isPrefixOf (c :: cs) || "...".toList.isPrefixOf (c :: cs)

/-- The text reads back as it is: it is of the kind of texts, stands on one line, has no blank at
either end, and no sign in it has a meaning of its own. -/
def isPlain (cs : List Char) : Bool :=
  match cs with
  | [] => false
  | c :: rest =>
    Kind.ofPlain cs == .text && cs.all isSimpleChar && !cs.any isBreak && c ≠ ' ' &&
      cs.getLast? ≠ some ' ' && !hasLeadingSign cs && !hasInnerSign c rest

/-- The text can stand between single quotes: no character needs an escape, and no space stands next
to a line break. -/
def isSingle (cs : List Char) : Bool :=
  cs.all isSimpleChar && !hasPair isBreak (· = ' ') cs && !hasPair (· = ' ') isBreak cs

def Style.of (cs : List Char) : Style :=
  if isPlain cs then .plain else if isSingle cs then .single else .double

end FluentBuilder.Yaml
