import FluentBuilder.Pattern.Escape

/-! Quantifiers: how often the item before them is repeated. -/

namespace FluentBuilder.Pattern

open Number Text

def bound? (digits : List Char) : Read (Option Nat) := do
  if digits.isEmpty then return none
  if digitLimit < digits.length then throw (.longNumber digits.length)
  let n := natOfDigits digits
  if widthLimit ≤ n then throw .hugeRepetition
  return some n

/-- Reads the bounds behind an opening brace, if they are bounds. Otherwise nothing is taken, and
the brace stands for itself. -/
def braces : Read (Option (Nat × Option Nat)) := do
  let start ← get
  if (← peek) = some (.char '\x7d') then return none
  let low ← takeChars start.tokens.length isDigit
  let comma ← accept ','
  let high ← if comma then takeChars start.tokens.length isDigit else pure low
  if !(← accept '\x7d') then
    set start
    return none
  let least ← bound? low
  let most ← bound? high
  if let some most := most then
    if most < least.getD 0 then failAt .leastAboveMost start.position
  return some (least.getD 0, most)

/-- The bounds that a quantifier, already taken, stands for. -/
def bounds (c : Char) : Read (Option (Nat × Option Nat)) :=
  if c = '?' then return some (0, some 1)
  else if c = '*' then return some (0, none)
  else if c = '+' then return some (1, none)
  else braces

/-- A node that a quantifier may not follow, and why. -/
def unrepeatable? : Option Node → Option Fault
  | none | some (.anchor _) => some .nothingToRepeat
  | some (.repetition ..) => some .multipleRepeat
  | _ => none

/-- Reads the rest of a quantifier and applies it to the last node of the sequence. -/
def quantifier (c : Char) : Read Unit := do
  let start := (← get).position - 1
  match ← bounds c with
  | none => append (.literal false (codeOf c))
  | some (least, most) =>
    let level := (← get).level
    if let some fault := unrepeatable? level.nodes.head? then failAt fault start
    let lazy ← accept '?'
    let possessive ← if lazy then pure false else accept '+'
    let greed := if lazy then Greed.lazy else if possessive then .possessive else .greedy
    match level.nodes with
    | [] => return
    | node :: rest =>
      let nodes := .repetition least most greed node.contents :: rest
      modify fun s => { s with level := { level with nodes } }

end FluentBuilder.Pattern
