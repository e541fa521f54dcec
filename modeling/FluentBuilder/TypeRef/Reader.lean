import FluentBuilder.Text.Blank
import FluentBuilder.Text.Literal
import FluentBuilder.TypeRef.Arguments
import FluentBuilder.TypeRef.Basic

/-!
Reading declared types: a name, an element with brackets behind it, or a name with arguments in
angle brackets. Blanks around each part are skipped. Names decide the kinds of types.
-/

namespace FluentBuilder

/-- Why a text is no declared type. The text is the part that is at fault. -/
inductive TypeError
  | empty
  | malformed (text : String)
  | unbalanced (text : String)
  | emptyArgument (text : String)
  deriving DecidableEq, Inhabited

def TypeError.message : TypeError → String
  | .empty => "Empty type declaration."
  | .malformed text => "Malformed generic type " ++ Text.quoted text ++ "."
  | .unbalanced text => "Unbalanced brackets in type " ++ Text.quoted text ++ "."
  | .emptyArgument text => "Empty type argument in " ++ Text.quoted text ++ "."

namespace TypeRef

def scalarNames : List String :=
  ["boolean", "bool", "byte", "short", "int", "long", "float", "double", "char"]

def textNames : List String := ["String", "string", "str", "CharSequence", "text"]

def sequenceNames : List String :=
  ["List", "Set", "Collection", "Iterable", "Map", "list", "set", "tuple", "dict"]

def leaf (name : String) : TypeRef :=
  if scalarNames.contains name then { name, kind := .scalar }
  else if textNames.contains name then { name, kind := .text }
  else if sequenceNames.contains name then { name, kind := .sequence }
  else { name }

/-- A name with arguments; the last argument of a sequence is its element. -/
def generic (name : String) (arguments : List TypeRef) : TypeRef :=
  if sequenceNames.contains name then
    { name, kind := .sequence, element := arguments.getLast?, arguments }
  else { name, arguments }

/-- The arguments in the text between the outer brackets of `whole`, each with its bound. -/
def splitArguments (inner whole : List Char) :
    Except TypeError { pieces : List (List Char) // ∀ p ∈ pieces, p.length ≤ inner.length } :=
  match h : pieces? inner with
  | none => .error (.unbalanced (String.ofList whole))
  | some pieces =>
    if pieces.any fun p => (Text.trim p).isEmpty then
      .error (.emptyArgument (String.ofList whole))
    else .ok ⟨pieces, length_le_of_mem_piecesAt? h⟩

/-- The text before the first opening bracket. -/
def baseOf (text : List Char) : List Char := text.takeWhile (· ≠ '<')

/-- The text after the first opening bracket, without the last character. -/
def innerOf (text : List Char) : List Char := ((text.dropWhile (· ≠ '<')).drop 1).dropLast

theorem length_innerOf_lt {text : List Char} (h : '<' ∈ text) :
    (innerOf text).length < text.length := by
  have hd := (List.dropWhile_sublist (fun c => decide (c ≠ '<')) (l := text)).length_le
  have hpos : 0 < text.length := List.length_pos_of_mem h
  simp only [innerOf, List.length_dropLast, List.length_drop]
  omega

theorem length_dropLast_trim_lt {cs : List Char} (h : Text.trim cs ≠ []) :
    ((Text.trim cs).dropLast.dropLast).length < cs.length := by
  have := Text.length_trim_le cs
  have : 0 < (Text.trim cs).length := List.length_pos_iff.2 h
  simp only [List.length_dropLast]
  omega

def parse (cs : List Char) : Except TypeError TypeRef :=
  let text := Text.trim cs
  if hne : text = [] then .error .empty
  else if "[]".toList.isSuffixOf text then
    have := length_dropLast_trim_lt hne
    (parse text.dropLast.dropLast).map arrayOf
  else if hlt : '<' ∈ text then
    if text.getLast? ≠ some '>' then .error (.malformed (String.ofList text))
    else
      match splitArguments (innerOf text) text with
      | .error e => .error e
      | .ok ⟨pieces, hpieces⟩ => do
        let arguments ← pieces.attach.mapM fun ⟨piece, hmem⟩ =>
          have : piece.length < cs.length :=
            Nat.lt_of_le_of_lt (hpieces piece hmem)
              (Nat.lt_of_lt_of_le (length_innerOf_lt hlt) (Text.length_trim_le cs))
          parse piece
        return generic (String.ofList (Text.trim (baseOf text))) arguments
  else .ok (leaf (String.ofList text))
termination_by cs.length
decreasing_by all_goals assumption

def ofString (text : String) : Except TypeError TypeRef := parse text.toList

end TypeRef

end FluentBuilder
