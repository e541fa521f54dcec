import FluentBuilder.Number.Numeral
import Mathlib.Data.List.Basic

/-! Numbers as they are written: different numbers have different texts, the text of a number holds
nothing but digits and perhaps a sign, and reading it gives the number back. -/

namespace FluentBuilder.Number

theorem natDigits_injective : Function.Injective natDigits := by
  intro m n h
  have hread := congrArg (fun digits => Nat.ofDigitChars 10 digits 0) h
  simpa [natDigits] using hread

theorem isDigit_of_mem_natDigits {n : Nat} {c : Char} (h : c ∈ natDigits n) : c.isDigit = true :=
  Nat.isDigit_of_mem_toDigits (by omega) (by omega) h

theorem notMem_natDigits {c : Char} (h : c.isDigit = false) (n : Nat) : c ∉ natDigits n := by
  intro hc
  have hd := isDigit_of_mem_natDigits hc
  rw [h] at hd
  cases hd

theorem notMem_intDigits {c : Char} (h : c.isDigit = false) (hs : c ≠ '-') (n : Int) :
    c ∉ intDigits n := by
  have hd := notMem_natDigits h n.natAbs
  unfold intDigits
  by_cases hn : n < 0
  · simp [hn, hs, hd]
  · simp [hn, hd]

theorem intDigits_injective : Function.Injective intDigits := by
  intro m n h
  have hsign : '-' ∉ natDigits m.natAbs ∧ '-' ∉ natDigits n.natAbs :=
    ⟨notMem_natDigits (by decide) _, notMem_natDigits (by decide) _⟩
  unfold intDigits at h
  -- Only what is written of a negative number starts with the sign.
  by_cases hm : m < 0
  · by_cases hn : n < 0
    · rw [if_pos hm, if_pos hn] at h
      have habs := natDigits_injective (List.cons.inj h).2
      omega
    · rw [if_pos hm, if_neg hn] at h
      exact absurd (h ▸ List.mem_cons_self) hsign.2
  · by_cases hn : n < 0
    · rw [if_neg hm, if_pos hn] at h
      exact absurd (h ▸ List.mem_cons_self) hsign.1
    · rw [if_neg hm, if_neg hn] at h
      have habs := natDigits_injective h
      omega

theorem digitOf?_ten {c : Char} (h : c.isDigit = true) : digitOf? 10 c = some (c.toNat - 48) := by
  have hrange : '0' ≤ c ∧ c ≤ '9' := by simpa [Char.isDigit, Char.le_def] using h
  have hsize : c.toNat - 48 < 10 := by
    have hle : c.toNat ≤ 57 := hrange.2
    omega
  unfold digitOf? digitValue?
  rw [if_pos hrange, Option.bind_some, if_pos hsize]

theorem readDigits?_eq {cs : List Char} (h : ∀ c ∈ cs, c.isDigit = true) (start : Nat) :
    readDigits? 10 start cs = some (Nat.ofDigitChars 10 cs start) := by
  induction cs generalizing start with
  | nil => rfl
  | cons c cs ih =>
    obtain ⟨hc, hcs⟩ := List.forall_mem_cons.mp h
    rw [readDigits?, digitOf?_ten hc, Option.bind_some, ih hcs, Nat.ofDigitChars_cons, Nat.mul_comm]
    rfl

theorem joinGroups?_digits {cs : List Char} (h : ∀ c ∈ cs, c.isDigit = true) (afterDigit : Bool) :
    joinGroups? afterDigit cs = some cs := by
  induction cs generalizing afterDigit with
  | nil => rfl
  | cons c cs ih =>
    obtain ⟨hc, hcs⟩ := List.forall_mem_cons.mp h
    have hne : c ≠ '_' := by
      rintro rfl
      cases hc
    unfold joinGroups?
    rw [if_neg hne, ih hcs, Option.map_some]

theorem splitSign_digits {cs : List Char} (h : ∀ c ∈ cs, c.isDigit = true) :
    splitSign cs = (false, cs) := by
  unfold splitSign
  split
  · exact absurd (h '-' List.mem_cons_self) (by decide)
  · exact absurd (h '+' List.mem_cons_self) (by decide)
  · rfl

theorem readGroups_natDigits (n : Nat) :
    (joinGroups? false (natDigits n)).bind (natOfDigits? 10) = some n := by
  have hdigits : ∀ c ∈ natDigits n, c.isDigit = true := fun c hc => isDigit_of_mem_natDigits hc
  have hread : readDigits? 10 0 (natDigits n) = some n := by
    rw [readDigits?_eq hdigits, natDigits, Nat.ofDigitChars_ten_toDigits]
  rw [joinGroups?_digits hdigits, Option.bind_some]
  obtain ⟨c, cs, hcs⟩ := List.exists_cons_of_ne_nil (l := natDigits n) Nat.toDigits_ne_nil
  rw [hcs] at hread ⊢
  exact hread

theorem readInt?_intDigits (n : Int) : readInt? 10 (intDigits n) = some n := by
  unfold readInt? intDigits
  split_ifs with hn
  · have hsign : splitSign ('-' :: natDigits n.natAbs) = (true, natDigits n.natAbs) := rfl
    simp only [hsign, readGroups_natDigits]
    exact congrArg some (show -(n.natAbs : Int) = n by omega)
  · have hdigits : ∀ c ∈ natDigits n.natAbs, c.isDigit = true :=
      fun c hc => isDigit_of_mem_natDigits hc
    simp only [splitSign_digits hdigits, readGroups_natDigits]
    exact congrArg some (show (n.natAbs : Int) = n by omega)

end FluentBuilder.Number
