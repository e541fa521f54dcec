import FluentBuilder.Number.Fraction
import FluentBuilder.Number.Shortest
import FluentBuilder.Text.Literal
import FluentBuilder.Value.Knot

/-!
The text of values. The literal of a value shows its kind; its plain text differs from that for
texts, decimals, fractions, dates and moments only. Neither is made for integers with more digits
than are written.
-/

namespace FluentBuilder.Value

open Number

/-- What is written for a collection that is being written already. -/
def ellipsis : Value → String
  | .dict _ => "\x7b...\x7d"
  | .tuple _ => "(...)"
  | _ => "[...]"

/-- The text of a cell, given how each cell is written when the texts of its links are known. A cell
inside its own text is an ellipsis. -/
def cellText (cells : List Value) (writers : List ((Nat → String) → String)) :
    (fuel : Nat) → (shown : List Nat) → (cell : Nat) → String
  | 0, _, _ => ""
  | fuel + 1, shown, cell =>
    if shown.contains cell then ellipsis (cells.getD cell .null)
    else (writers.getD cell fun _ => "") (cellText cells writers fuel (cell :: shown))

mutual

/-- The literal of a value, with the literals of what it holds and the given texts for links. -/
def literalWith (link : Nat → String) : Value → String
  | .null => "None"
  | .bool b => if b then "True" else "False"
  | .int n => intText n
  | .float x => x.text
  | .decimal d => "Decimal('" ++ d.text ++ "')"
  | .fraction q => "Fraction(" ++ intText q.num ++ ", " ++ natText q.den ++ ")"
  | .text s => Text.quoted s
  | .bytes b => String.ofList (Text.bytesLiteral b)
  | .date d => d.literal
  | .moment m => m.literal
  | .list items => "[" ++ ", ".intercalate (literalsWith link items) ++ "]"
  | .tuple [item] => "(" ++ literalWith link item ++ ",)"
  | .tuple items => "(" ++ ", ".intercalate (literalsWith link items) ++ ")"
  | .set [] => "set()"
  | .set items => "\x7b" ++ ", ".intercalate (literalsWith link items) ++ "\x7d"
  | .dict entries => "\x7b" ++ ", ".intercalate (entryLiteralsWith link entries) ++ "\x7d"
  | .knot cells start => cellText cells (writers cells) (cells.length + 1) [] start
  | .link cell => link cell

def literalsWith (link : Nat → String) : List Value → List String
  | [] => []
  | v :: rest => literalWith link v :: literalsWith link rest

/-- The literals of the entries, key and value with a colon between them. -/
def entryLiteralsWith (link : Nat → String) : List (Value × Value) → List String
  | [] => []
  | (k, v) :: rest =>
    (literalWith link k ++ ": " ++ literalWith link v) :: entryLiteralsWith link rest

/-- How each of the values is written when the texts of links are known. -/
def writers : List Value → List ((Nat → String) → String)
  | [] => []
  | v :: rest => (fun link => literalWith link v) :: writers rest

end

def literal (v : Value) : String := literalWith (fun _ => "") v

def plain : Value → String
  | .text s => s
  | .decimal d => d.text
  | .fraction q => fractionText q
  | .date d => d.isoText
  | .moment m => m.isoText ' '
  | v => v.literal

mutual

/-- The value holds an integer with more digits than are written. -/
def hasLongNumber : Value → Bool
  | .int n => isLong n
  | .fraction q => isLong q.num || isLong q.den
  | .list items | .tuple items | .set items => anyLongNumber items
  | .dict entries => anyLongEntry entries
  | .knot cells start =>
    let long := longNumbersIn cells
    (reach cells start).any fun cell => long.getD cell false
  | _ => false

def anyLongNumber : List Value → Bool
  | [] => false
  | v :: rest => hasLongNumber v || anyLongNumber rest

def longNumbersIn : List Value → List Bool
  | [] => []
  | v :: rest => hasLongNumber v :: longNumbersIn rest

def anyLongEntry : List (Value × Value) → Bool
  | [] => false
  | (k, v) :: rest => hasLongNumber k || hasLongNumber v || anyLongEntry rest

end

end FluentBuilder.Value
