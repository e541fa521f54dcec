import FluentBuilder.Pattern.CaseFold
import FluentBuilder.Pattern.Node
import FluentBuilder.Text.Alphanumeric
import FluentBuilder.Text.Blank

/-!
Character sets ready for tests. Where case is disregarded, the letters of a set are lowered when the
set is made and the character is lowered when it is tested; a set without letters is left as it is.
Beyond the basic plane nothing is lowered in advance: a range is tested with the upper case too.
-/

namespace FluentBuilder.Pattern

open Text

def Flags.caseRule (f : Flags) : CaseRule :=
  if !f.ignoreCase then .exact else if f.ascii then .ascii else .unicode

/-- A code point of a class; if the class is limited to ASCII only those of ASCII belong to it. -/
def Category.holds (ascii : Bool) : Category → Nat → Bool
  | .digit, n => if ascii then 48 ≤ n && n ≤ 57 else isDecimalDigitCode n
  | .blank, n => if ascii then n == 32 || (9 ≤ n && n ≤ 13) else inRuns blankRuns n
  | .word, n => n == 95 || if ascii then n < 128 && isAlphanumericCode n else isAlphanumericCode n

inductive Member
  | literal (code : Nat)
  | range (first last : Nat)
  | foldedRange (first last : Nat)
  | category (negated ascii : Bool) (kind : Category)

def Member.holds : Member → Nat → Bool
  | .literal code, n => code == n
  | .range first last, n => first ≤ n && n ≤ last
  | .foldedRange first last, n =>
    (first ≤ n && n ≤ last) || (first ≤ upperCode n && upperCode n ≤ last)
  | .category negated ascii kind, n => kind.holds ascii n != negated

/-- A prepared set. The rule says how a character is lowered before it is looked up. -/
structure CharacterSet where
  rule : CaseRule
  negated : Bool
  members : List Member

def CharacterSet.holds (set : CharacterSet) (n : Nat) : Bool :=
  set.members.any (·.holds (set.rule.lower n)) != set.negated

def basicPlaneEnd : Nat := 0xFFFF

def SetItem.member (ascii : Bool) : SetItem → Member
  | .literal code => .literal code
  | .range first last => .range first last
  | .category negated kind => .category negated ascii kind

/-- A code point of the basic plane in lower case, and the letters that count as it. -/
def CaseRule.folded (rule : CaseRule) (n : Nat) : List Nat :=
  let lowered := rule.lower n
  lowered :: rule.alike lowered

/-- The code points of the basic plane that an item stands for. -/
def SetItem.foldedCodes (rule : CaseRule) : SetItem → List Nat
  | .literal code => if code ≤ basicPlaneEnd then rule.folded code else []
  | .range first last =>
    (List.range' first (min last basicPlaneEnd + 1 - first)).flatMap rule.folded
  | .category .. => []

/-- What an item stands for beyond the basic plane, and its class. -/
def SetItem.unfolded? (ascii : Bool) : SetItem → Option Member
  | .literal code => if code ≤ basicPlaneEnd then none else some (.literal code)
  | .range first last => if last ≤ basicPlaneEnd then none else some (.foldedRange first last)
  | .category negated kind => some (.category negated ascii kind)

/-- An item with a letter that has another case, or with anything beyond the basic plane. -/
def SetItem.hasCase (rule : CaseRule) : SetItem → Bool
  | .literal code => decide (basicPlaneEnd < code) || rule.isCased code
  | .range first last =>
    decide (basicPlaneEnd < last) || (List.range' first (last + 1 - first)).any rule.isCased
  | .category .. => false

/-- Adds a code point to runs, the last run first, that lie at or before it. -/
def extendRuns (runs : List (Nat × Nat)) (n : Nat) : List (Nat × Nat) :=
  match runs with
  | (first, last) :: earlier =>
    if n ≤ last + 1 then (first, max last n) :: earlier else (n, n) :: runs
  | [] => [(n, n)]

/-- The runs of neighbours in a sorted list, each with its first and its last code point. -/
def runsOf (codes : List Nat) : List (Nat × Nat) := (codes.foldl extendRuns []).reverse

/-- A run as a part of a set. -/
def runMember (run : Nat × Nat) : Member :=
  if run.1 = run.2 then .literal run.1 else .range run.1 run.2

/-- Prepares a set under flags. A set without letters keeps its items if its runs are few and take
no less room than the items. -/
def CharacterSet.ofItems (f : Flags) (negated : Bool) (items : List SetItem) : CharacterSet :=
  let asWritten := items.map (·.member f.ascii)
  match f.caseRule with
  | .exact => { rule := .exact, negated, members := asWritten }
  | rule =>
    let runs := runsOf ((items.flatMap (·.foldedCodes rule)).mergeSort)
    let members := runs.map runMember ++ items.filterMap (·.unfolded? f.ascii)
    if items.any (·.hasCase rule) then { rule, negated, members }
    else if 2 < runs.length || members.length < items.length then
      { rule := .exact, negated, members }
    else { rule := .exact, negated, members := asWritten }

end FluentBuilder.Pattern
