import FluentBuilder.Text.Runs

/-! Blank characters: what is trimmed from both ends of a text. -/

namespace FluentBuilder.Text

def blankRuns : List Nat :=
  [
    9, 5, 14, 5, 100, 1, 26, 1, 5599, 1, 2431, 11, 29, 2, 5, 1, 47, 1, 4000, 1]

/-- A separator of words, lines or paragraphs, whatever its script. -/
def isBlank (c : Char) : Bool := inRuns blankRuns c.toNat

def trimStart (cs : List Char) : List Char := cs.dropWhile isBlank

def trimEnd (cs : List Char) : List Char := (cs.reverse.dropWhile isBlank).reverse

def trim (cs : List Char) : List Char := trimEnd (trimStart cs)

/-- `trim` on strings. -/
def trimmed (s : String) : String := String.ofList (trim s.toList)

theorem length_trimStart_le (cs : List Char) : (trimStart cs).length ≤ cs.length :=
  (List.dropWhile_sublist _).length_le

theorem length_trimEnd_le (cs : List Char) : (trimEnd cs).length ≤ cs.length := by
  have h := (List.dropWhile_sublist isBlank (l := cs.reverse)).length_le
  simpa [trimEnd] using h

theorem length_trim_le (cs : List Char) : (trim cs).length ≤ cs.length :=
  Nat.le_trans (length_trimEnd_le _) (length_trimStart_le _)

end FluentBuilder.Text
