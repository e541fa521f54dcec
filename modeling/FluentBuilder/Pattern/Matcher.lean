import FluentBuilder.Pattern.Machine
import FluentBuilder.Pattern.Reader

/-! Matching a pattern against a whole text. -/

namespace FluentBuilder.Pattern

/-- More steps than a machine gets through in its life. -/
def lifetime : Nat := Nat.pow 2 62

/-- How a match ended. A match is spoiled by a group that has been opened anew behind its end. -/
inductive Verdict
  | matched
  | unmatched
  | spoiled
  deriving DecidableEq

/-- Some group begins behind its end. -/
def isSpoiled (marks : Marks) : Bool :=
  (List.range (marks.size / 2)).any fun group =>
    match (marks[2 * group]?).join, (marks[2 * group + 1]?).join with
    | some first, some last => last < first
    | _, _ => false

/-- A pattern ready for matching: its program, and the least length of the texts to be tried. -/
structure Compiled where
  least : Nat
  program : Program

def compile (pattern : List Char) (isText : Bool := true) : Except Refusal Compiled := do
  let { flags, widths, nodes } ← readPattern pattern isText
  return {
    least := (sequenceWidth widths nodes).1
    program := sequenceProgram flags nodes .accept }

def Compiled.matchWhole (pattern : Compiled) (s : Subject) : Verdict :=
  if s.size < pattern.least then .unmatched
  else
    match Machine.steps s lifetime (.run pattern.program 0) {} with
    | (.over true, m) => if isSpoiled m.marks then .spoiled else .matched
    | _ => .unmatched

end FluentBuilder.Pattern
