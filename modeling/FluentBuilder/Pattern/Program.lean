import FluentBuilder.Pattern.CharacterSet

/-!
Programs: patterns in the order in which they are matched. Each instruction holds what comes after
it, so a node is turned into a program together with the program of what follows.
-/

namespace FluentBuilder.Pattern

inductive Item
  | literal (negated : Bool) (rule : CaseRule) (code : Nat)
  | any (lineFeedToo : Bool)
  | set (characters : CharacterSet)

def Item.holds : Item → Nat → Bool
  | .literal negated rule code, n => (rule.lower n == code) != negated
  | .any lineFeedToo, n => lineFeedToo || n != 10
  | .set characters, n => characters.holds n

/-- Counting the matches of the item moves the reading head along: those of a set that lowers
characters are tried one by one. -/
def Item.movesHead : Item → Bool
  | .set characters => characters.rule != .exact
  | _ => false

/-- An item that is looked at before an alternative is tried: one that takes characters as they
are. -/
def Item.isPlain : Item → Bool
  | .literal negated rule _ => !negated && rule == .exact
  | .set characters => characters.rule == .exact
  | .any _ => false

inductive Program
  | accept
  | item (item : Item) (next : Program)
  | anchor (flags : Flags) (kind : Anchor) (next : Program)
  | mark (index : Nat) (next : Program)
  | onward (next : Program)
  | choice (alternatives : List Program)
  | itemRounds (item : Item) (least : Nat) (most : Option Nat) (greed : Greed) (next : Program)
  | rounds (least : Nat) (most : Option Nat) (body roundEnd : Program)
  | roundEnd (lazy : Bool) (next : Program)
  | bestRounds (least : Nat) (most : Option Nat) (body next : Program)
  | atomic (body next : Program)
  | look (negated : Bool) (back : Nat) (body next : Program)
  | reference (rule : CaseRule) (group : Nat) (next : Program)
  | condition (group : Nat) (yes no : Program)
  deriving Inhabited

/-- The test for a character. Without regard to case it is one for its lower case, or for all the
letters that count as it. -/
def literalItem (f : Flags) (negated : Bool) (code : Nat) : Item :=
  let rule := f.caseRule
  if rule.isCased code then
    match rule.folded code with
    | [lowered] => .literal negated rule lowered
    | codes => .set { rule, negated, members := codes.map .literal }
  else .literal negated .exact code

mutual

def Node.item? (f : Flags) : Node → Option Item
  | .literal negated code => some (literalItem f negated code)
  | .any => some (.any f.dotAll)
  | .set negated items => some (.set (.ofItems f negated items))
  | .group none added removed body => item? (f.inGroup added removed) body
  | _ => none

def item? (f : Flags) : List Node → Option Item
  | [node] => node.item? f
  | _ => none

end

mutual

def Node.program (f : Flags) : Node → Program → Program
  | .literal negated code, next => .item (literalItem f negated code) next
  | .any, next => .item (.any f.dotAll) next
  | .set negated items, next => .item (.set (.ofItems f negated items)) next
  | .anchor kind, next => .anchor f kind next
  | .group none added removed body, next => sequenceProgram (f.inGroup added removed) body next
  | .group (some index) added removed body, next =>
    .mark (2 * index - 2) <|
      sequenceProgram (f.inGroup added removed) body (.mark (2 * index - 1) next)
  | .atomic body, next => .atomic (sequenceProgram f body .accept) next
  | .repetition least most greed body, next =>
    match item? f body with
    | some item => .itemRounds item least most greed next
    | none =>
      if greed = .possessive then
        .bestRounds least most (sequenceProgram f body .accept) next
      else
        let roundEnd := .roundEnd (greed = .lazy) next
        .rounds least most (sequenceProgram f body roundEnd) roundEnd
  | .branch alternatives, next => .choice (alternativePrograms f alternatives (.onward next))
  | .reference index, next => .reference f.caseRule (index - 1) next
  | .lookAhead negated body, next => .look negated 0 (sequenceProgram f body .accept) next
  | .lookBehind negated (width, _) body, next =>
    .look negated width (sequenceProgram f body .accept) next
  | .condition index yes no, next =>
    if no.isEmpty then .condition (index - 1) (sequenceProgram f yes next) next
    else
      .condition (index - 1) (sequenceProgram f yes (.onward next)) (sequenceProgram f no next)

def sequenceProgram (f : Flags) : List Node → Program → Program
  | [], next => next
  | node :: rest, next => node.program f (sequenceProgram f rest next)

/-- The programs for alternatives, all with the same sequel. -/
def alternativePrograms (f : Flags) : List (List Node) → Program → List Program
  | [], _ => []
  | alternative :: rest, next =>
    sequenceProgram f alternative next :: alternativePrograms f rest next

end

end FluentBuilder.Pattern
