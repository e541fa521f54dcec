/-!
Parsed patterns. A pattern is a sequence of nodes; the flags of a group hold for its contents.
-/

namespace FluentBuilder.Pattern

/-- How the nodes of a pattern are to be read and matched. -/
structure Flags where
  ignoreCase : Bool := false
  multiline : Bool := false
  dotAll : Bool := false
  verbose : Bool := false
  ascii : Bool := false
  unicode : Bool := false
  locale : Bool := false
  template : Bool := false
  deriving DecidableEq, Inhabited

namespace Flags

/-- A flag that chooses an alphabet. -/
def hasAlphabet (f : Flags) : Bool := f.ascii || f.unicode || f.locale

def union (f g : Flags) : Flags where
  ignoreCase := f.ignoreCase || g.ignoreCase
  multiline := f.multiline || g.multiline
  dotAll := f.dotAll || g.dotAll
  verbose := f.verbose || g.verbose
  ascii := f.ascii || g.ascii
  unicode := f.unicode || g.unicode
  locale := f.locale || g.locale
  template := f.template || g.template

def without (f g : Flags) : Flags where
  ignoreCase := f.ignoreCase && !g.ignoreCase
  multiline := f.multiline && !g.multiline
  dotAll := f.dotAll && !g.dotAll
  verbose := f.verbose && !g.verbose
  ascii := f.ascii && !g.ascii
  unicode := f.unicode && !g.unicode
  locale := f.locale && !g.locale
  template := f.template && !g.template

/-- The flags inside a group that turns some on and some off. A new alphabet replaces the old. -/
def inGroup (f added removed : Flags) : Flags :=
  let kept :=
    if added.hasAlphabet then { f with ascii := false, unicode := false, locale := false } else f
  (kept.union added).without removed

def meets (f g : Flags) : Bool :=
  (f.ignoreCase && g.ignoreCase) || (f.multiline && g.multiline) || (f.dotAll && g.dotAll) ||
    (f.verbose && g.verbose) || (f.ascii && g.ascii) || (f.unicode && g.unicode) ||
    (f.locale && g.locale) || (f.template && g.template)

end Flags

inductive Category
  | digit
  | blank
  | word
  deriving DecidableEq

inductive SetItem
  | literal (code : Nat)
  | range (first last : Nat)
  | category (negated : Bool) (category : Category)
  deriving DecidableEq

/-- A condition on a place in the text. -/
inductive Anchor
  | lineStart
  | textStart
  | lineEnd
  | textEnd
  | wordBoundary
  | noWordBoundary
  deriving DecidableEq

/-- In which order the numbers of repetitions are tried. -/
inductive Greed
  | greedy
  | lazy
  | possessive
  deriving DecidableEq

inductive Node
  | literal (negated : Bool) (code : Nat)
  | any
  | set (negated : Bool) (items : List SetItem)
  | anchor (anchor : Anchor)
  | group (index : Option Nat) (added removed : Flags) (body : List Node)
  | atomic (body : List Node)
  | repetition (least : Nat) (most : Option Nat) (greed : Greed) (body : List Node)
  | branch (alternatives : List (List Node))
  | reference (index : Nat)
  | lookAhead (negated : Bool) (body : List Node)
  | lookBehind (negated : Bool) (width : Nat × Nat) (body : List Node)
  | condition (index : Nat) (yes no : List Node)
  deriving Inhabited

/-- No number of repetitions and no width reaches this one. -/
def widthLimit : Nat := Nat.pow 2 32 - 1

mutual

/-- The least and the greatest number of characters that a node matches, given the widths of the
groups closed before it. -/
def Node.width (groups : List (Option (Nat × Nat))) : Node → Nat × Nat
  | .literal .. | .any | .set .. => (1, 1)
  | .anchor _ | .lookAhead .. | .lookBehind .. => (0, 0)
  | .group _ _ _ body | .atomic body => sequenceWidth groups body
  | .repetition least most _ body =>
    let (lo, hi) := sequenceWidth groups body
    (lo * least, hi * most.getD widthLimit)
  | .branch alternatives => alternativesWidth groups alternatives
  | .reference index => ((groups[index - 1]?).getD none).getD (0, 0)
  | .condition _ yes no =>
    let (lo, hi) := sequenceWidth groups yes
    let (lo', hi') := sequenceWidth groups no
    (min lo lo', max hi hi')

/-- The width of a sequence. The least width stays below the limit, the greatest may reach it. -/
def sequenceWidth (groups : List (Option (Nat × Nat))) : List Node → Nat × Nat
  | [] => (0, 0)
  | node :: rest =>
    let (lo, hi) := node.width groups
    let (lo', hi') := sequenceWidth groups rest
    (min (lo + lo') (widthLimit - 1), min (hi + hi') widthLimit)

def alternativesWidth (groups : List (Option (Nat × Nat))) : List (List Node) → Nat × Nat
  | [] => (widthLimit - 1, 0)
  | alternative :: rest =>
    let (lo, hi) := sequenceWidth groups alternative
    let (lo', hi') := alternativesWidth groups rest
    (min lo lo', max hi hi')

end

/-- The same single item: a node without contents of its own, found twice. -/
def Node.sameItem : Node → Node → Bool
  | .literal negated code, .literal negated' code' => negated == negated' && code == code'
  | .any, .any => true
  | .set negated items, .set negated' items' => negated == negated' && items == items'
  | .anchor a, .anchor a' => a == a'
  | .reference index, .reference index' => index == index'
  | _, _ => false

/-- The items with which a sequence and all the others begin. -/
def sharedStart : List Node → List (List Node) → List Node
  | [], _ => []
  | node :: rest, others =>
    if others.all (·.head?.any node.sameItem) then node :: sharedStart rest (others.map List.tail)
    else []

/-- The members of a set that stands for a sequence of one character. -/
def characterItems? : List Node → Option (List SetItem)
  | [.literal false code] => some [.literal code]
  | [.set false items] => some items
  | _ => none

/-- A choice between two or more sequences. What all of them begin with comes before the choice; a
choice between single characters is a set. -/
def choice (first : List Node) (others : List (List Node)) : List Node :=
  let shared := sharedStart first others
  let rests := (first :: others).map (·.drop shared.length)
  match rests.mapM characterItems? with
  | some items => shared ++ [.set false items.flatten.eraseDups]
  | none => shared ++ [.branch rests]

/-- The contents of a group that only holds its contents together, or the node by itself. -/
def Node.contents : Node → List Node
  | .group none added removed body =>
    if added = {} ∧ removed = {} then body else [.group none added removed body]
  | node => [node]

end FluentBuilder.Pattern
