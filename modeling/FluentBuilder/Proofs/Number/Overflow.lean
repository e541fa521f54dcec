import FluentBuilder.Number.Binary64
import Mathlib.Data.Rat.Defs
import Mathlib.Algebra.Order.Field.Basic
import Mathlib.Algebra.Order.Field.Power
import Mathlib.Tactic.Linarith
import Mathlib.Tactic.Positivity
import Mathlib.Tactic.FieldSimp
import Mathlib.Tactic.NormNum
import Mathlib.Tactic.Ring

/-! When rounding a quotient to a floating-point number overflows: from the middle between the
largest number and the next power of two on. -/

namespace FluentBuilder.Number

/-- Rounding reaches an even number from the middle below it on. -/
theorem le_roundHalfEven_iff {num den k : ℕ} (hd : 0 < den) (hk : k % 2 = 0) :
    k ≤ roundHalfEven num den ↔ 2 * (k * den) ≤ 2 * num + den := by
  have hn := Nat.div_add_mod num den
  have hr := Nat.mod_lt num hd
  have hmul {a b : ℕ} (h : a ≤ b) : a * den ≤ b * den := Nat.mul_le_mul_right den h
  have hq : num / den * den = den * (num / den) := Nat.mul_comm ..
  unfold roundHalfEven
  dsimp only
  rcases Nat.lt_trichotomy k (num / den + 1) with h | h | h
  · have hle : k * den ≤ num / den * den := hmul (by omega)
    split_ifs <;> omega
  · have he : k * den = num / den * den + den := by rw [h, Nat.add_mul, Nat.one_mul]
    split_ifs <;> omega
  · have hge : (num / den + 2) * den ≤ k * den := hmul (by omega)
    rw [Nat.add_mul] at hge
    split_ifs <;> omega

theorem roundHalfEven_le {num den k : ℕ} (hd : 0 < den) (h : num < k * den) :
    roundHalfEven num den ≤ k := by
  have hq : num / den < k := (Nat.div_lt_iff_lt_mul hd).mpr h
  unfold roundHalfEven
  dsimp only
  split_ifs
  · omega
  · omega
  · omega

theorem scaleByTwo_pos (num : ℕ) {den : ℕ} (hd : 0 < den) (shift : ℤ) :
    0 < (scaleByTwo num den shift).2 := by
  unfold scaleByTwo
  split_ifs
  · exact Nat.mul_pos hd (Nat.pow_pos (by norm_num))
  · exact hd

theorem scaleByTwo_ratio (num den : ℕ) (shift : ℤ) :
    ((scaleByTwo num den shift).1 : ℚ) / (scaleByTwo num den shift).2 =
      (num : ℚ) / den / 2 ^ shift := by
  unfold scaleByTwo
  by_cases h : 0 ≤ shift
  · obtain ⟨n, rfl⟩ := Int.eq_ofNat_of_zero_le h
    simp [h, div_div]
  · obtain ⟨n, hn⟩ := Int.eq_ofNat_of_zero_le (show 0 ≤ -shift by omega)
    obtain rfl : shift = -n := by omega
    simp only [h, if_false, neg_neg, Int.toNat_natCast, zpow_neg, zpow_natCast, div_inv_eq_mul,
      Nat.pow_eq]
    push_cast
    ring

namespace Binary64

theorem ofRatio_eq_ofRounded (negative : Bool) {num : ℕ} (hn : num ≠ 0) (den : ℕ) :
    ofRatio negative num den =
      ofRounded negative (roundHalfEven (scaleByTwo num den (ratioExponent num den)).1
        (scaleByTwo num den (ratioExponent num den)).2) (ratioExponent num den) := by
  unfold ofRatio
  rw [if_neg hn]

theorem ratio_log2_bounds {num den : ℕ} (hn : num ≠ 0) (hd : den ≠ 0) :
    (2 : ℚ) ^ ((num.log2 : ℤ) - den.log2 - 1) ≤ (num : ℚ) / den ∧
      (num : ℚ) / den < 2 ^ ((num.log2 : ℤ) - den.log2 + 1) := by
  have hnlow : (2 : ℚ) ^ num.log2 ≤ num := by exact_mod_cast Nat.log2_self_le hn
  have hnhigh : (num : ℚ) < 2 ^ (num.log2 + 1) := by exact_mod_cast Nat.lt_log2_self
  have hdlow : (2 : ℚ) ^ den.log2 ≤ den := by exact_mod_cast Nat.log2_self_le hd
  have hdhigh : (den : ℚ) < 2 ^ (den.log2 + 1) := by exact_mod_cast Nat.lt_log2_self
  have hdpos : (0 : ℚ) < den := by exact_mod_cast Nat.pos_of_ne_zero hd
  have hlow : (2 : ℚ) ^ ((num.log2 : ℤ) - den.log2 - 1) = 2 ^ num.log2 / 2 ^ (den.log2 + 1) := by
    rw [sub_sub, zpow_sub₀ two_ne_zero]
    norm_cast
  have hhigh : (2 : ℚ) ^ ((num.log2 : ℤ) - den.log2 + 1) = 2 ^ (num.log2 + 1) / 2 ^ den.log2 := by
    rw [sub_add_eq_add_sub, zpow_sub₀ two_ne_zero]
    norm_cast
  constructor
  · rw [hlow]
    exact div_le_div₀ (Nat.cast_nonneg _) hnlow hdpos hdhigh.le
  · rw [hhigh]
    exact div_lt_div₀ hnhigh hdlow (by positivity) (by positivity)

variable {num den : ℕ} (hn : num ≠ 0) (hd : den ≠ 0)

include hd in
theorem scaled_le_iff (shift : ℤ) :
    (scaleByTwo num den shift).2 * Nat.pow 2 53 ≤ (scaleByTwo num den shift).1 ↔
      (2 : ℚ) ^ (shift + 53) ≤ (num : ℚ) / den := by
  have hpos := scaleByTwo_pos num (Nat.pos_of_ne_zero hd) shift
  have hposq : (0 : ℚ) < (scaleByTwo num den shift).2 := by exact_mod_cast hpos
  have hs : (0 : ℚ) < 2 ^ shift := by positivity
  rw [zpow_add₀ two_ne_zero, mul_comm (2 ^ shift), ← le_div_iff₀ hs, ← scaleByTwo_ratio,
    le_div_iff₀ hposq, mul_comm, Nat.pow_eq]
  exact_mod_cast Iff.rfl

include hn hd

theorem ratio_lt : (num : ℚ) / den < 2 ^ (ratioExponent num den + 53) := by
  obtain ⟨-, hhigh⟩ := ratio_log2_bounds hn hd
  unfold ratioExponent
  dsimp only
  split_ifs with h
  · refine hhigh.trans_le (zpow_le_zpow_right₀ one_le_two ?_)
    omega
  · exact not_le.mp (mt (scaled_le_iff hd _).mpr h)

/-- Where the exponent is not the least one, the rounded mantissa has all its bits. -/
theorem le_ratio (he : -1074 < ratioExponent num den) :
    (2 : ℚ) ^ (ratioExponent num den + 52) ≤ (num : ℚ) / den := by
  obtain ⟨hlow, -⟩ := ratio_log2_bounds hn hd
  unfold ratioExponent at he ⊢
  dsimp only at he ⊢
  split_ifs with h
  · have hle := (scaled_le_iff hd _).mp h
    rwa [show ∀ low : ℤ, low + 1 + 52 = low + 53 by intro low; omega]
  · rw [if_neg h] at he
    refine le_trans (zpow_le_zpow_right₀ one_le_two ?_) hlow
    omega

omit hn hd

theorem ofRounded_eq_infinite_iff (negative sign : Bool) (mantissa : ℕ) (exponent : ℤ) :
    ofRounded negative mantissa exponent = .infinite sign ↔
      negative = sign ∧ (971 < exponent ∨ exponent = 971 ∧ mantissa = 2 ^ 53) := by
  unfold ofRounded
  rw [Nat.pow_eq]
  by_cases hm : mantissa = 2 ^ 53
  · rw [if_pos hm]
    by_cases he : 971 < exponent + 1
    · simp [hm, he, show 971 < exponent ∨ exponent = 971 by omega]
    · simp [he, show ¬ 971 < exponent by omega, show exponent ≠ 971 by omega]
  · rw [if_neg hm]
    by_cases he : 971 < exponent
    · simp [he]
    · simp [he, hm, -Nat.reducePow]

/-- The middle between the largest number and the next power of two. -/
@[irreducible] def overflowLimit : ℕ := (2 ^ 54 - 1) * 2 ^ 970

theorem overflowLimit_cast : (overflowLimit : ℚ) = (2 ^ 53 - 1 / 2) * 2 ^ (971 : ℤ) := by
  have h : (2 : ℚ) ^ (971 : ℤ) = 2 ^ 970 * 2 := by
    rw [show (971 : ℤ) = ((970 : ℕ) : ℤ) + 1 by norm_num, zpow_add_one₀ two_ne_zero, zpow_natCast]
  unfold overflowLimit
  rw [h, Nat.cast_mul, Nat.cast_pow, Nat.cast_ofNat]
  generalize (2 : ℚ) ^ 970 = p
  norm_num
  ring

theorem overflowLimit_bounds :
    (2 : ℚ) ^ (1023 : ℤ) ≤ overflowLimit ∧ (overflowLimit : ℚ) ≤ 2 ^ (1024 : ℤ) := by
  have hlow : (2 : ℚ) ^ (1023 : ℤ) = 2 ^ 52 * 2 ^ (971 : ℤ) := by
    rw [show (1023 : ℤ) = ((52 : ℕ) : ℤ) + 971 by norm_num, zpow_add₀ two_ne_zero, zpow_natCast]
  have hhigh : (2 : ℚ) ^ (1024 : ℤ) = 2 ^ 53 * 2 ^ (971 : ℤ) := by
    rw [show (1024 : ℤ) = ((53 : ℕ) : ℤ) + 971 by norm_num, zpow_add₀ two_ne_zero, zpow_natCast]
  have hs : (0 : ℚ) < 2 ^ (971 : ℤ) := by positivity
  rw [overflowLimit_cast, hlow, hhigh]
  generalize (2 : ℚ) ^ (971 : ℤ) = p at hs
  constructor
  · nlinarith
  · nlinarith

include hn hd

/-- From the middle on, the mantissa is rounded up to the next power of two. -/
theorem roundHalfEven_eq_iff (he : ratioExponent num den = 971) :
    roundHalfEven (scaleByTwo num den (ratioExponent num den)).1
        (scaleByTwo num den (ratioExponent num den)).2 = 2 ^ 53 ↔
      (overflowLimit : ℚ) ≤ (num : ℚ) / den := by
  have hlt := ratio_lt hn hd
  rw [he] at hlt ⊢
  have hpos := scaleByTwo_pos num (Nat.pos_of_ne_zero hd) 971
  have hposq : (0 : ℚ) < (scaleByTwo num den 971).2 := by exact_mod_cast hpos
  have hs : (0 : ℚ) < 2 ^ (971 : ℤ) := by positivity
  have hup : (scaleByTwo num den 971).1 < 2 ^ 53 * (scaleByTwo num den 971).2 := by
    have h := mt (scaled_le_iff hd 971).mp (not_le.mpr hlt)
    rw [Nat.pow_eq, mul_comm] at h
    exact not_le.mp h
  have heven : 2 ^ 53 ≤ roundHalfEven (scaleByTwo num den 971).1 (scaleByTwo num den 971).2 ↔
      2 * (2 ^ 53 * (scaleByTwo num den 971).2) ≤
        2 * (scaleByTwo num den 971).1 + (scaleByTwo num den 971).2 :=
    le_roundHalfEven_iff hpos (by norm_num)
  rw [overflowLimit_cast, ← le_div_iff₀ hs, ← scaleByTwo_ratio, le_div_iff₀ hposq]
  constructor
  · intro hr
    have h := heven.mp hr.ge
    have hq : (2 : ℚ) * (2 ^ 53 * (scaleByTwo num den 971).2) ≤
        2 * (scaleByTwo num den 971).1 + (scaleByTwo num den 971).2 := by exact_mod_cast h
    linarith
  · intro hq
    refine le_antisymm (roundHalfEven_le hpos hup) (heven.mpr ?_)
    have h : (2 : ℚ) * (2 ^ 53 * (scaleByTwo num den 971).2) ≤
        2 * (scaleByTwo num den 971).1 + (scaleByTwo num den 971).2 := by linarith
    exact_mod_cast h

omit hn in
/-- A quotient overflows exactly from that middle on. -/
theorem ofRatio_eq_infinite_iff (negative sign : Bool) :
    ofRatio negative num den = .infinite sign ↔
      negative = sign ∧ overflowLimit * den ≤ num := by
  have hdpos : (0 : ℚ) < den := by exact_mod_cast Nat.pos_of_ne_zero hd
  have hcast : overflowLimit * den ≤ num ↔ (overflowLimit : ℚ) ≤ (num : ℚ) / den := by
    rw [le_div_iff₀ hdpos]
    exact_mod_cast Iff.rfl
  by_cases hn : num = 0
  · subst hn
    have hl : 0 < overflowLimit * den := Nat.mul_pos (by unfold overflowLimit; positivity)
      (Nat.pos_of_ne_zero hd)
    simp [ofRatio, zero, hl.ne']
  rw [ofRatio_eq_ofRounded negative hn, ofRounded_eq_infinite_iff, hcast]
  -- Under a larger exponent the quotient is beyond the middle, under a smaller one it is below; only
  -- under the last one the rounding decides.
  refine and_congr_right fun _ => ⟨?_, fun hle => ?_⟩
  · rintro (he | ⟨he, hm⟩)
    · have hlow := le_ratio hn hd (by omega)
      have hp : (2 : ℚ) ^ (1024 : ℤ) ≤ 2 ^ (ratioExponent num den + 52) :=
        zpow_le_zpow_right₀ one_le_two (by omega)
      exact overflowLimit_bounds.2.trans (hp.trans hlow)
    · exact (roundHalfEven_eq_iff hn hd he).mp hm
  · have he : 971 ≤ ratioExponent num den := by
      have hp : (2 : ℚ) ^ (1023 : ℤ) < 2 ^ (ratioExponent num den + 53) :=
        (overflowLimit_bounds.1.trans hle).trans_lt (ratio_lt hn hd)
      have hlt := (zpow_lt_zpow_iff_right₀ one_lt_two).mp hp
      omega
    rcases he.lt_or_eq with hlt | heq
    · exact .inl hlt
    · exact .inr ⟨heq.symm, (roundHalfEven_eq_iff hn hd heq.symm).mpr hle⟩

end Binary64

end FluentBuilder.Number
