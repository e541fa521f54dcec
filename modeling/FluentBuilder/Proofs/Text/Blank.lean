import FluentBuilder.Text.Blank
import Mathlib.Data.List.DropRight

/-! Trimming: what is taken off is blank, what is left has no blank at either end, and a character
that is not blank keeps all between itself and the other end. -/

namespace FluentBuilder.Text

def Blank (cs : List Char) : Prop := ∀ c ∈ cs, isBlank c = true

theorem blank_nil : Blank [] := List.forall_mem_nil _

theorem blank_singleton_iff {c : Char} : Blank [c] ↔ isBlank c = true := List.forall_mem_singleton

theorem blank_append_iff {x y : List Char} : Blank (x ++ y) ↔ Blank x ∧ Blank y :=
  List.forall_mem_append

theorem trimStart_append_cons {c : Char} (hc : isBlank c = false) (x y : List Char) :
    trimStart (x ++ c :: y) = trimStart x ++ c :: y := by
  have hy : (c :: y).dropWhile isBlank = c :: y := List.dropWhile_cons_of_neg (by simp [hc])
  rw [trimStart, trimStart, List.dropWhile_append, hy]
  split
  · rename_i h
    rw [List.isEmpty_iff.mp h, List.nil_append]
  · rfl

theorem trimEnd_append_cons {c : Char} (hc : isBlank c = false) (x y : List Char) :
    trimEnd (x ++ c :: y) = x ++ c :: trimEnd y := by
  have h := trimStart_append_cons hc y.reverse x.reverse
  simp only [trimStart] at h
  simp [trimEnd, h]

theorem trim_append_cons {c : Char} (hc : isBlank c = false) (x y : List Char) :
    trim (x ++ c :: y) = trimStart x ++ c :: trimEnd y := by
  rw [trim, trimStart_append_cons hc, trimEnd_append_cons hc]

theorem trimStart_of_blank {b : List Char} (hb : Blank b) : trimStart b = [] :=
  List.dropWhile_eq_nil_iff.mpr hb

theorem trimEnd_of_blank {b : List Char} (hb : Blank b) : trimEnd b = [] :=
  List.rdropWhile_eq_nil_iff.mpr hb

theorem trim_of_blank {b : List Char} (hb : Blank b) : trim b = [] := by
  rw [trim, trimStart_of_blank hb]
  rfl

theorem exists_blank_cons {cs : List Char} (h : ¬ Blank cs) :
    ∃ b c rest, cs = b ++ c :: rest ∧ Blank b ∧ isBlank c = false := by
  cases hd : trimStart cs with
  | nil => exact absurd (List.dropWhile_eq_nil_iff.mp hd) h
  | cons c rest =>
    have hc : isBlank c = false := by
      have := List.head?_dropWhile_not isBlank cs
      rw [trimStart] at hd
      simpa [hd] using this
    refine ⟨cs.takeWhile isBlank, c, rest, ?_, fun d hd => List.mem_takeWhile_imp hd, hc⟩
    rw [← hd, trimStart, List.takeWhile_append_dropWhile]

theorem trim_blank_append {b : List Char} (hb : Blank b) (cs : List Char) :
    trim (b ++ cs) = trim cs := by
  rw [trim, trim, trimStart, trimStart, List.dropWhile_append_of_pos hb]

theorem trim_append_blank {b : List Char} (hb : Blank b) (cs : List Char) :
    trim (cs ++ b) = trim cs := by
  by_cases hcs : Blank cs
  · rw [trim_of_blank hcs, trim_of_blank (blank_append_iff.mpr ⟨hcs, hb⟩)]
  · obtain ⟨front, c, rest, rfl, -, hc⟩ := exists_blank_cons hcs
    have hend : trimEnd (rest ++ b) = trimEnd rest := by
      rw [trimEnd, trimEnd, List.reverse_append,
        List.dropWhile_append_of_pos fun d hd => hb d (List.mem_reverse.mp hd)]
    rw [List.append_assoc, List.cons_append, trim_append_cons hc, trim_append_cons hc, hend]

/-- What is trimmed away is blank. -/
theorem exists_blank_trim (cs : List Char) :
    ∃ front back, Blank front ∧ Blank back ∧ cs = front ++ trim cs ++ back := by
  have hback (y : List Char) : ∃ b, Blank b ∧ y = trimEnd y ++ b :=
    ⟨y.rtakeWhile isBlank, fun c hc => List.mem_rtakeWhile_imp hc,
      List.rdropWhile_append_rtakeWhile.symm⟩
  obtain ⟨back, hb, hy⟩ := hback (trimStart cs)
  refine ⟨cs.takeWhile isBlank, back, fun c hc => List.mem_takeWhile_imp hc, hb, ?_⟩
  rw [trim, List.append_assoc, ← hy, trimStart, List.takeWhile_append_dropWhile]

theorem trim_eq_self {cs : List Char} (h : ∀ c ∈ cs, isBlank c = false) : trim cs = cs := by
  obtain ⟨front, back, hf, hb, hcs⟩ := exists_blank_trim cs
  have hempty (part : List Char) (hpart : Blank part) (hsub : part ⊆ cs) : part = [] := by
    rw [List.eq_nil_iff_forall_not_mem]
    intro c hc
    have hnot := h c (hsub hc)
    rw [hpart c hc] at hnot
    cases hnot
  have hfront : front = [] := hempty front hf fun c hc => by
    rw [hcs]
    simp [hc]
  have hback : back = [] := hempty back hb fun c hc => by
    rw [hcs]
    simp [hc]
  rw [hfront, hback, List.nil_append, List.append_nil] at hcs
  exact hcs.symm

theorem trim_trim (cs : List Char) : trim (trim cs) = trim cs := by
  obtain ⟨front, back, hf, hb, h⟩ := exists_blank_trim cs
  calc trim (trim cs) = trim (front ++ trim cs ++ back) := by
        rw [trim_append_blank hb, trim_blank_append hf]
    _ = trim cs := by rw [← h]

theorem trim_trimStart (cs : List Char) : trim (trimStart cs) = trim cs := by
  rw [trim, trim, trimStart, trimStart, List.dropWhile_idempotent]

theorem trim_eq_nil_iff {cs : List Char} : trim cs = [] ↔ Blank cs := by
  refine ⟨fun h => ?_, trim_of_blank⟩
  obtain ⟨front, back, hf, hb, hcs⟩ := exists_blank_trim cs
  rw [h, List.append_nil] at hcs
  rw [hcs]
  exact blank_append_iff.mpr ⟨hf, hb⟩

theorem mem_trim_iff {c : Char} (hc : isBlank c = false) {cs : List Char} :
    c ∈ trim cs ↔ c ∈ cs := by
  obtain ⟨front, back, hf, hb, h⟩ := exists_blank_trim cs
  have hfront : c ∉ front := fun hm => by simp [hf c hm] at hc
  have hback : c ∉ back := fun hm => by simp [hb c hm] at hc
  conv_rhs => rw [h]
  simp [hfront, hback]

end FluentBuilder.Text
