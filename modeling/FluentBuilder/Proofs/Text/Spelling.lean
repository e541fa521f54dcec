import FluentBuilder.Document.Field

/-! Spellings of tags. A word may be written with capital letters and with underscores and hyphens
anywhere; its lower case without these is the word again. -/

namespace FluentBuilder.Text

/-- The letters that words of the document format are made of. -/
def plainLetters : List Char := "abcdefghijklmnopqrstuvwxyz".toList

/-- The text writes the word letter by letter, each of them small or capital, with underscores and
hyphens anywhere. -/
inductive Spells : List Char → List Char → Prop
  | nil : Spells [] []
  | underscore {word cs : List Char} : Spells word cs → Spells word ('_' :: cs)
  | hyphen {word cs : List Char} : Spells word cs → Spells word ('-' :: cs)
  | small {c : Char} {word cs : List Char} : Spells word cs → Spells (c :: word) (c :: cs)
  | capital {c : Char} {word cs : List Char} : Spells word cs →
      Spells (c :: word) (c.toUpper :: cs)

theorem lowerCharBetween_of_mem {c : Char} (hc : c ∈ plainLetters) (before after : List Char) :
    lowerCharBetween before c after = [c] ∧ lowerCharBetween before c.toUpper after = [c] := by
  have hcodes : plainLetters.all (fun c =>
      (c.toNat ≠ 0x3A3 ∧ c.toNat ≠ 0x130 ∧ Char.ofNat (lowerCode c.toNat) = c) ∧
        c.toUpper.toNat ≠ 0x3A3 ∧ c.toUpper.toNat ≠ 0x130 ∧
        Char.ofNat (lowerCode c.toUpper.toNat) = c) = true := by
    decide +kernel
  obtain ⟨⟨hsigma, hdot, hlower⟩, hsigma', hdot', hlower'⟩ :=
    of_decide_eq_true (List.all_eq_true.mp hcodes c hc)
  unfold lowerCharBetween
  rw [if_neg hsigma, if_neg hdot, hlower, if_neg hsigma', if_neg hdot', hlower']
  exact ⟨rfl, rfl⟩

theorem kept_of_mem {c : Char} (hc : c ∈ plainLetters) :
    (c ≠ '_' ∧ c ≠ '-') ∧ c.toUpper ≠ '_' ∧ c.toUpper ≠ '-' := by
  have hall : plainLetters.all (fun c =>
      (c ≠ '_' ∧ c ≠ '-') ∧ c.toUpper ≠ '_' ∧ c.toUpper ≠ '-') = true := by
    decide +kernel
  exact of_decide_eq_true (List.all_eq_true.mp hall c hc)

theorem Spells.lowerAfter_eq {word cs : List Char} (h : Spells word cs)
    (hword : ∀ c ∈ word, c ∈ plainLetters) (before : List Char) :
    lowerAfter before (cs.filter fun c => c ≠ '_' ∧ c ≠ '-') = word := by
  induction h generalizing before with
  | nil => rfl
  | underscore _ ih => simpa using ih hword before
  | hyphen _ ih => simpa using ih hword before
  | @small c word cs _ ih =>
    obtain ⟨hc, hrest⟩ := List.forall_mem_cons.mp hword
    rw [List.filter_cons_of_pos (by simpa using (kept_of_mem hc).1), lowerAfter,
      (lowerCharBetween_of_mem hc ..).1, ih hrest]
    rfl
  | @capital c word cs _ ih =>
    obtain ⟨hc, hrest⟩ := List.forall_mem_cons.mp hword
    rw [List.filter_cons_of_pos (by simpa using (kept_of_mem hc).2), lowerAfter,
      (lowerCharBetween_of_mem hc ..).2, ih hrest]
    rfl

end FluentBuilder.Text

namespace FluentBuilder

theorem tagWord_of_spells {word tag : String} (h : Text.Spells word.toList tag.toList)
    (hword : ∀ c ∈ word.toList, c ∈ Text.plainLetters) : tagWord tag = word := by
  unfold tagWord Text.lower
  rw [h.lowerAfter_eq hword, String.ofList_toList]

end FluentBuilder
