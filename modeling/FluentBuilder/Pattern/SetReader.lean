import FluentBuilder.Pattern.Escape

/-!
Character sets between brackets. A first closing bracket and a last hyphen stand for themselves.
-/

namespace FluentBuilder.Pattern

open Text

/-- Reads what the current token, already taken, stands for in a set. -/
def setItem (token : Token) : Read SetItem :=
  match token with
  | .char c => return .literal (codeOf c)
  | .escape c => setEscape c
  | .marked _ code => return .literal code
  | .dangling => return .literal '\\'.toNat

/-- The range between two items, which must be characters in order. -/
def setRange (first last : Token) (low high : SetItem) : Read SetItem := do
  let text (t : Token) := String.ofList t.text
  let refuse : Read SetItem :=
    fail (.badRange (text first) (text last)) (first.size + 1 + last.size)
  match low, high with
  | .literal a, .literal b => if b < a then refuse else return .range a b
  | _, _ => refuse

/-- Reads items up to the closing bracket, at most one for each of `most` tokens. -/
def setItems (start : Nat) : Nat → List SetItem → Read (List SetItem)
  | 0, _ => failAt .unterminatedSet start
  | most + 1, items => do
    match ← next with
    | none => failAt .unterminatedSet start
    | some token =>
      if token = .char ']' ∧ items ≠ [] then return items
      let item ← setItem token
      if !(← accept '-') then setItems start most (items ++ [item])
      else
        match ← next with
        | none => failAt .unterminatedSet start
        | some last =>
          if last = .char ']' then return items ++ [item, .literal '-'.toNat]
          else
            let high ← setItem last
            setItems start most (items ++ [← setRange token last item high])

/-- Reads a set whose opening bracket has been taken. -/
def set : Read Node := do
  let s ← get
  let start := s.position - 1
  let negated ← accept '^'
  let items ← setItems start (s.tokens.length + 1) []
  match items.eraseDups with
  | [.literal code] => return .literal negated code
  | items => return .set negated items

end FluentBuilder.Pattern
