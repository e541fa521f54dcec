import FluentBuilder.Number.Numeral
import FluentBuilder.Text.Literal

/-!
Characters to bytes, as far as it can fail: half of a pair that stands alone has no bytes, unless it
keeps one.
-/

namespace FluentBuilder.Text

open Number

/-- Codes without bytes: the first of them, its place, and the place behind the last one. -/
structure EncodeFault where
  first : Nat
  start : Nat
  stop : Nat

def EncodeFault.message (f : EncodeFault) : String :=
  let place :=
    if f.stop = f.start + 1 then
      "character '" ++ String.ofList (escapeCode f.first) ++ "' in position " ++ natText f.start
    else "characters in position " ++ natText f.start ++ "-" ++ natText (f.stop - 1)
  "'utf-8' codec can't encode " ++ place ++ ": surrogates not allowed"

/-- The halves that keep a byte which belongs to no character. -/
def isByteHalf (code : Nat) : Bool := 0xDC80 ≤ code && code < 0xDD00

/-- The first run of halves that begins with one that is not kept as a byte, from its first place to
the one behind its last; `position` is the place of the first code. -/
def unwritable? (isKept : Nat → Bool) (position : Nat) : List Nat → Option (Nat × Nat)
  | [] => none
  | code :: rest =>
    if isHalf code && !isKept code then
      some (position, position + 1 + (rest.takeWhile isHalf).length)
    else unwritable? isKept (position + 1) rest

/-- Why a text cannot be written, when some halves are kept as bytes. -/
def encodeFault? (isKept : Nat → Bool) (cs : List Char) : Option EncodeFault :=
  (unwritable? isKept 0 (codes cs)).map fun (start, stop) =>
    { first := (codes cs).getD start 0, start, stop }

theorem unwritable?_eq_none_iff {isKept : Nat → Bool} {position : Nat} {codes : List Nat} :
    unwritable? isKept position codes = none ↔
      ∀ code ∈ codes, isHalf code = true → isKept code = true := by
  induction codes generalizing position with
  | nil => simp [unwritable?]
  | cons code rest ih =>
    rw [unwritable?, List.forall_mem_cons]
    split
    next h =>
      have hcode : isHalf code = true ∧ isKept code = false := by simpa using h
      simp [hcode]
    next h =>
      have hcode : isHalf code = true → isKept code = true := by simpa using h
      rw [ih]
      exact (and_iff_right hcode).symm

theorem encodeFault?_eq_none_iff {isKept : Nat → Bool} {cs : List Char} :
    encodeFault? isKept cs = none ↔
      ∀ code ∈ codes cs, isHalf code = true → isKept code = true := by
  rw [encodeFault?, Option.map_eq_none_iff, unwritable?_eq_none_iff]

end FluentBuilder.Text
