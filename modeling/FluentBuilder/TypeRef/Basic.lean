/-!
Declared types of fields: a name with its kind, the element type of arrays and sequences, and type
arguments. `render` writes a type in the notation of declarations.
-/

namespace FluentBuilder

/-- What a declared type is good for. -/
inductive TypeKind
  | scalar
  | text
  | array
  | sequence
  | reference
  deriving DecidableEq, Inhabited

def TypeKind.word : TypeKind → String
  | .scalar => "scalar"
  | .text => "text"
  | .array => "array"
  | .sequence => "sequence"
  | .reference => "reference"

structure TypeRef where
  name : String
  kind : TypeKind := .reference
  element : Option TypeRef := none
  arguments : List TypeRef := []
  deriving Inhabited

namespace TypeRef

mutual

/-- Equality of types is decidable. A type that is compared with itself is not looked into: the
element of a sequence is its last argument once more, and looking into both would double the work on
each level of nesting. -/
def decideEq (a b : TypeRef) : Decidable (a = b) :=
  withPtrEqDecEq a b fun _ =>
    match a, b with
    | ⟨n, k, e, as⟩, ⟨m, l, f, bs⟩ =>
      if hn : n = m then
        if hk : k = l then
          match decideEqElement e f with
          | isTrue he =>
            match decideEqArguments as bs with
            | isTrue ha => isTrue (by rw [hn, hk, he, ha])
            | isFalse ha => isFalse fun h => ha (by injection h)
          | isFalse he => isFalse fun h => he (by injection h)
        else isFalse fun h => hk (by injection h)
      else isFalse fun h => hn (by injection h)

def decideEqElement : (a b : Option TypeRef) → Decidable (a = b)
  | none, none => isTrue rfl
  | some a, some b =>
    match decideEq a b with
    | isTrue h => isTrue (by rw [h])
    | isFalse h => isFalse fun he => h (by injection he)
  | none, some _ => isFalse (by simp)
  | some _, none => isFalse (by simp)

def decideEqArguments : (as bs : List TypeRef) → Decidable (as = bs)
  | [], [] => isTrue rfl
  | a :: as, b :: bs =>
    match decideEq a b with
    | isTrue h =>
      match decideEqArguments as bs with
      | isTrue hs => isTrue (by rw [h, hs])
      | isFalse hs => isFalse fun he => hs (by injection he)
    | isFalse h => isFalse fun he => h (by injection he)
  | [], _ :: _ => isFalse (by simp)
  | _ :: _, [] => isFalse (by simp)

end

instance : DecidableEq TypeRef := decideEq

def numericNames : List String :=
  ["byte", "short", "int", "long", "float", "double", "Byte", "Short", "Integer", "Long", "Float",
    "Double", "BigInteger", "BigDecimal", "Number", "decimal"]

/-- Every kind but a scalar can be null. -/
def nullable (t : TypeRef) : Bool := t.kind != .scalar

/-- A scalar or a reference with the name of a number type. -/
def numeric (t : TypeRef) : Bool :=
  (t.kind == .scalar || t.kind == .reference) && numericNames.contains t.name

/-- Texts, arrays and sequences have a size. -/
def sized (t : TypeRef) : Bool := t.kind == .text || t.kind == .array || t.kind == .sequence

mutual

/-- The notation of a type: an element with brackets, or a name with its arguments. -/
def render : TypeRef → String
  | ⟨_, .array, some element, _⟩ => element.render ++ "[]"
  | ⟨name, _, _, []⟩ => name
  | ⟨name, _, _, argument :: rest⟩ =>
    name ++ "<" ++ ", ".intercalate (renderAll (argument :: rest)) ++ ">"

def renderAll : List TypeRef → List String
  | [] => []
  | t :: rest => t.render :: renderAll rest

end

def arrayOf (element : TypeRef) : TypeRef :=
  { name := element.render ++ "[]", kind := .array, element := some element }

end TypeRef

end FluentBuilder
