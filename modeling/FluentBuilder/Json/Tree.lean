import FluentBuilder.Json.Quoted

/-! Data to be printed: texts, truth values, lists, and mappings with an order. -/

namespace FluentBuilder

inductive Tree
  | text (s : String)
  | flag (b : Bool)
  | list (items : List Tree)
  | fields (entries : List (String × Tree))
  deriving Inhabited

namespace Tree

/-- A mapping with one more entry at its end. -/
def withEntry (t : Tree) (key : String) (value : Tree) : Tree :=
  match t with
  | .fields entries => .fields (entries ++ [(key, value)])
  | t => t

mutual

/-- JSON text, nested two blanks a level; `margin` is the indentation of the current line. -/
def json (margin : String) : Tree → String
  | .text s => Json.quoted s
  | .flag b => if b then "true" else "false"
  | .list [] => "[]"
  | .list items =>
    let inner := margin ++ "  "
    "[\n" ++ ",\n".intercalate (jsonItems inner items) ++ "\n" ++ margin ++ "]"
  | .fields [] => "\x7b\x7d"
  | .fields entries =>
    let inner := margin ++ "  "
    "\x7b\n" ++ ",\n".intercalate (jsonEntries inner entries) ++ "\n" ++ margin ++ "\x7d"

def jsonItems (margin : String) : List Tree → List String
  | [] => []
  | t :: rest => (margin ++ t.json margin) :: jsonItems margin rest

def jsonEntries (margin : String) : List (String × Tree) → List String
  | [] => []
  | (key, t) :: rest =>
    (margin ++ Json.quoted key ++ ": " ++ t.json margin) :: jsonEntries margin rest

end

end Tree

end FluentBuilder
