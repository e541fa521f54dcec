import FluentBuilder.Proofs.Number.Digits
import FluentBuilder.Proofs.Rule.Interval

/-! Line feeds in the messages of rules. A message is made of the name of the field, fixed words,
numbers and the text of a pattern, and only the last of these can hold a line feed. -/

namespace FluentBuilder

namespace Number

theorem lineFeed_notMem_natDigits (n : ℕ) : '\n' ∉ natDigits n := notMem_natDigits (by decide) n

theorem lineFeed_notMem_natText (n : ℕ) : '\n' ∉ (natText n).toList := by
  rw [natText, String.toList_ofList]
  exact lineFeed_notMem_natDigits n

theorem lineFeed_notMem_intText (n : ℤ) : '\n' ∉ (intText n).toList := by
  rw [intText, String.toList_ofList]
  exact notMem_intDigits (by decide) (by decide) n

theorem lineFeed_notMem_fractionText (q : ℚ) : '\n' ∉ (fractionText q).toList := by
  unfold fractionText
  split_ifs
  · exact lineFeed_notMem_intText q.num
  · simp [lineFeed_notMem_intText, lineFeed_notMem_natText]

section

variable {digits : List Char} (h : '\n' ∉ digits)
include h

theorem lineFeed_notMem_take (n : ℕ) : '\n' ∉ digits.take n := fun hm => h (List.mem_of_mem_take hm)

theorem lineFeed_notMem_drop (n : ℕ) : '\n' ∉ digits.drop n := fun hm => h (List.mem_of_mem_drop hm)

theorem lineFeed_notMem_dropTrailingZeros (place : ℤ) :
    '\n' ∉ (dropTrailingZeros digits place).1 := by
  intro hm
  have hkept := (List.dropWhile_sublist _).subset (List.mem_reverse.mp hm)
  exact h (List.mem_reverse.mp hkept)

theorem lineFeed_notMem_pointedDigits (place : ℤ) : '\n' ∉ pointedDigits digits place := by
  have htake := lineFeed_notMem_take h
  have hdrop := lineFeed_notMem_drop h
  unfold pointedDigits
  dsimp only
  split_ifs <;> simp [h, htake, hdrop, lineFeed_notMem_natDigits, -List.drop_one]

end

theorem Binary64.lineFeed_notMem_text (x : Binary64) : '\n' ∉ x.text.toList := by
  cases x with
  | finite negative m e =>
    have hbody (digits : ℕ) (place : ℤ) :
        '\n' ∉ pointedDigits (dropTrailingZeros (natDigits digits) place).1
          (dropTrailingZeros (natDigits digits) place).2 := by
      apply lineFeed_notMem_pointedDigits
      apply lineFeed_notMem_dropTrailingZeros
      exact lineFeed_notMem_natDigits digits
    unfold text
    rw [String.toList_ofList]
    dsimp only
    split_ifs <;> simp [hbody]
  | infinite negative => cases negative <;> decide
  | nan => decide

namespace Decimal

theorem lineFeed_notMem_pointed (coefficient : ℕ) (exponent : ℤ) :
    '\n' ∉ pointed coefficient exponent := by
  have hdigits := lineFeed_notMem_natDigits coefficient
  have htake := lineFeed_notMem_take hdigits
  have hdrop := lineFeed_notMem_drop hdigits
  unfold pointed
  dsimp only
  split_ifs <;> simp [hdigits, htake, hdrop, lineFeed_notMem_natDigits, -List.drop_one]

theorem lineFeed_notMem_text (d : Decimal) : '\n' ∉ d.text.toList := by
  unfold text
  rw [String.toList_ofList]
  cases d with
  | finite negative c e =>
    have hbody := lineFeed_notMem_pointed c e
    cases negative <;> simp [hbody]
  | infinite negative => cases negative <;> decide
  | nan negative signaling payload =>
    have hpayload := lineFeed_notMem_natDigits payload
    dsimp only
    split_ifs <;> simp [hpayload]

end Decimal

end Number

open Number

theorem Value.IsBound.lineFeed_notMem_plain {v : Value} (h : v.IsBound) :
    '\n' ∉ v.plain.toList := by
  rcases h with rfl | h
  · decide
  · cases v with
    | int n => exact lineFeed_notMem_intText n
    | float x => exact x.lineFeed_notMem_text
    | decimal d => exact d.lineFeed_notMem_text
    | fraction q => exact lineFeed_notMem_fractionText q
    | _ => cases h

theorem lineFeed_notMem_rangeMessage {name : String} {b : RangeBounds} (hname : '\n' ∉ name.toList)
    (hmin : b.min.IsBound) (hmax : b.max.IsBound) : '\n' ∉ (rangeMessage name b).toList := by
  have hlow := hmin.lineFeed_notMem_plain
  have hhigh := hmax.lineFeed_notMem_plain
  unfold rangeMessage lowerSign upperSign
  split <;> split_ifs <;> simp_all

variable {owner : String} {f : FieldDescriptor} {k : Constraint} {r : Rule}

theorem resolvePattern_message {regex : String} (h : resolvePattern f (.text regex) = .ok r) :
    r.message = f.name ++ " must match pattern " ++ regex := by
  unfold resolvePattern at h
  simp only [bind_eq_ok_iff, pure, Except.pure, Except.ok.injEq] at h
  obtain ⟨t, -, -, -, compiled, -, rfl⟩ := h
  rfl

/-- The message of a rule holds a line feed exactly if its constraint is a pattern that does. -/
theorem lineFeed_mem_message_iff (h : resolveConstraint owner f k = .ok r)
    (hname : '\n' ∉ f.name.toList) :
    '\n' ∈ r.message.toList ↔ ∃ regex, k = .pattern (.text regex) ∧ '\n' ∈ regex.toList := by
  by_cases hp : ∃ regex, k = .pattern (.text regex)
  · obtain ⟨regex, rfl⟩ := hp
    rw [resolvePattern_message h]
    simp [hname]
  · have hnone : ¬ ∃ regex, k = .pattern (.text regex) ∧ '\n' ∈ regex.toList :=
      fun ⟨regex, hk, _⟩ => hp ⟨regex, hk⟩
    refine iff_of_false ?_ hnone
    obtain ⟨-, htests, hsays⟩ := resolveConstraint_makes h
    generalize r.message = message at hsays
    generalize r.test = test at htests hsays
    cases htests with
    | nonNull => cases hsays; simp [hname]
    | nonEmpty => cases hsays; simp [hname]
    | range b =>
      obtain ⟨hmin, hmax⟩ := resolveRange_isBound h
      cases hsays
      exact lineFeed_notMem_rangeMessage hname hmin hmax
    | size low high => cases hsays <;> simp [hname, lineFeed_notMem_natText]
    | @pattern regex => exact absurd ⟨regex, rfl⟩ hp

theorem lineFeed_notMem_messages_iff {rules : List Rule}
    (h : resolveConstraints owner f = .ok rules) (hname : '\n' ∉ f.name.toList) :
    (∀ r ∈ rules, '\n' ∉ r.message.toList) ↔
      ∀ regex, .pattern (.text regex) ∈ f.constraints → '\n' ∉ regex.toList := by
  have hrules := (mapM_eq_ok_iff ..).mp h
  constructor
  · intro hmessages regex hk hregex
    obtain ⟨r, hr, hkr⟩ := exists_of_forall₂_left hrules hk
    exact hmessages r hr ((lineFeed_mem_message_iff hkr hname).mpr ⟨regex, rfl, hregex⟩)
  · intro hpatterns r hr hmessage
    obtain ⟨k, hk, hkr⟩ := exists_of_forall₂_right hrules hr
    obtain ⟨regex, rfl, hregex⟩ := (lineFeed_mem_message_iff hkr hname).mp hmessage
    exact hpatterns regex hk hregex

end FluentBuilder
