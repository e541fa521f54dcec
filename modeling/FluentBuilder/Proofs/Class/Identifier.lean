import FluentBuilder.Class.Structure
import FluentBuilder.Text.Blank

/-! Characters of names. What cannot stand in an identifier does not stand in a name, a dollar sign
apart; so names hold no blanks and no line feeds. -/

namespace FluentBuilder

namespace Text

/-- The code points of a set whose runs begin at `start`. -/
def membersInRuns (inside : Bool) (start : Nat) : List Nat → List Nat
  | [] => []
  | run :: runs =>
    (if inside then List.range' start run else []) ++ membersInRuns (!inside) (start + run) runs

/-- If what follows the last run is outside, the runs hold all members of the set. -/
theorem mem_membersInRuns {inside : Bool} {runs : List Nat} {n : Nat}
    (hend : runs.foldl (fun side _ => !side) inside = false)
    (h : sideInRuns inside runs n = true) (start : Nat) :
    start + n ∈ membersInRuns inside start runs := by
  induction runs generalizing inside n start with
  | nil =>
    have hout : inside = false := hend
    have hin : inside = true := h
    rw [hout] at hin
    cases hin
  | cons run runs ih =>
    have hrest : runs.foldl (fun side _ => !side) (!inside) = false := hend
    unfold sideInRuns at h
    unfold membersInRuns
    rw [List.mem_append]
    by_cases hn : n < run
    · left
      rw [if_pos hn] at h
      rw [if_pos h, List.mem_range'_1]
      omega
    · right
      rw [if_neg hn] at h
      have hmem := ih hrest h (start + run)
      have hplace : start + run + (n - run) = start + n := by omega
      rwa [hplace] at hmem

theorem not_identifier_of_isBlank {c : Char} (h : isBlank c = true) :
    isIdentifierStart c = false ∧ isIdentifierPart c = false := by
  have hall : ∀ n ∈ membersInRuns false 0 blankRuns,
      inRuns identifierStartRuns n = false ∧ inRuns identifierPartRuns n = false := by
    decide +kernel
  have hend : blankRuns.foldl (fun side _ => !side) false = false := by decide
  have hmem := mem_membersInRuns hend h 0
  rw [Nat.zero_add] at hmem
  exact hall c.toNat hmem

end Text

variable {name : String}

/-- A name has no character that cannot stand in an identifier, a dollar sign apart. -/
theorem notMem_of_isName (h : isName name = true) {c : Char} (hc : c ≠ '$')
    (hstart : Text.isIdentifierStart c = false) (hpart : Text.isIdentifierPart c = false) :
    c ∉ name.toList := by
  intro hmem
  have hin : c ∈ name.toList.map fun c => if c = '$' then '_' else c :=
    List.mem_map.mpr ⟨c, hmem, if_neg hc⟩
  unfold isName at h
  generalize name.toList.map (fun c => if c = '$' then '_' else c) = cs at h hin
  cases cs with
  | nil => cases hin
  | cons d ds =>
    rw [Text.isIdentifier, Bool.and_eq_true, List.all_eq_true] at h
    rcases List.mem_cons.mp hin with rfl | hin
    · rw [hstart] at h
      cases h.1
    · have hd := h.2 c hin
      rw [hpart] at hd
      cases hd

theorem not_isBlank_of_isName (h : isName name = true) {c : Char} (hc : c ∈ name.toList) :
    Text.isBlank c = false := by
  rw [Bool.eq_false_iff]
  intro hb
  obtain ⟨hstart, hpart⟩ := Text.not_identifier_of_isBlank hb
  have hdollar : c ≠ '$' := by
    rintro rfl
    revert hb
    decide
  exact notMem_of_isName h hdollar hstart hpart hc

theorem lineFeed_notMem_of_isName (h : isName name = true) : '\n' ∉ name.toList := by
  intro hmem
  have hblank := not_isBlank_of_isName h hmem
  revert hblank
  decide

theorem ne_empty_of_isName (h : isName name = true) : name ≠ "" := by
  rintro rfl
  cases h

end FluentBuilder
