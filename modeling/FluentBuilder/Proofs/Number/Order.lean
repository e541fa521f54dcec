import FluentBuilder.Number.Quantity
import Mathlib.Algebra.Order.Field.Power
import Mathlib.Data.EReal.Basic
import Mathlib.Order.Compare
import Mathlib.Tactic.FieldSimp
import Mathlib.Tactic.NormNum
import Mathlib.Tactic.Positivity
import Mathlib.Tactic.Ring

/-! Comparing numbers of all kinds tells the order of the extended reals that they stand for. Two
numbers that differ in size are told apart by their digits, without their powers of ten. -/

namespace FluentBuilder.Number

theorem lt_pow_digitCount (n : ℕ) : n < 10 ^ digitCount n :=
  (Nat.length_toDigits_le_iff (by norm_num) Nat.length_toDigits_pos).mp le_rfl

theorem pow_digitCount_le {n : ℕ} (hn : n ≠ 0) : 10 ^ (digitCount n - 1) ≤ n := by
  by_contra hlt
  have hpos : 0 < digitCount n := Nat.length_toDigits_pos
  rcases Nat.eq_zero_or_pos (digitCount n - 1) with hone | hmore
  · rw [hone, pow_zero] at hlt
    omega
  · have hle : digitCount n ≤ digitCount n - 1 :=
      (Nat.length_toDigits_le_iff (by norm_num) hmore).mpr (not_le.mp hlt)
    omega

/-- A natural times a power of ten lies between the powers that its digits tell. -/
theorem scaled_bounds {a : ℕ} (ha : a ≠ 0) (e : ℤ) :
    (10 : ℚ) ^ (e + digitCount a - 1) ≤ a * 10 ^ e ∧ (a : ℚ) * 10 ^ e < 10 ^ (e + digitCount a) := by
  have hten : (10 : ℚ) ≠ 0 := by norm_num
  have hscale : (0 : ℚ) < 10 ^ e := by positivity
  have hpos : 0 < digitCount a := Nat.length_toDigits_pos
  constructor
  · have hlow : ((10 : ℚ) ^ (digitCount a - 1 : ℕ)) ≤ a := by exact_mod_cast pow_digitCount_le ha
    have hsum : e + digitCount a - 1 = (digitCount a - 1 : ℕ) + e := by omega
    rw [hsum, zpow_add₀ hten, zpow_natCast]
    exact mul_le_mul_of_nonneg_right hlow hscale.le
  · have hhigh : (a : ℚ) < 10 ^ digitCount a := by exact_mod_cast lt_pow_digitCount a
    rw [add_comm, zpow_add₀ hten, zpow_natCast]
    exact mul_lt_mul_of_pos_right hhigh hscale

theorem scaled_lt_of_digits {a b : ℕ} (ha : a ≠ 0) (hb : b ≠ 0) {e f : ℤ}
    (h : e + digitCount a < f + digitCount b) : (a : ℚ) * 10 ^ e < b * 10 ^ f :=
  calc (a : ℚ) * 10 ^ e < 10 ^ (e + digitCount a) := (scaled_bounds ha e).2
    _ ≤ 10 ^ (f + digitCount b - 1) := zpow_le_zpow_right₀ (by norm_num) (by omega)
    _ ≤ b * 10 ^ f := (scaled_bounds hb f).1

theorem scaled_eq_of_le (a : ℕ) {low e : ℤ} (h : low ≤ e) :
    (a : ℚ) * 10 ^ e = (a * Nat.pow 10 (e - low).toNat : ℕ) * 10 ^ low := by
  have hexp : e = ((e - low).toNat : ℤ) + low := by omega
  conv_lhs => rw [hexp, zpow_add₀ (by norm_num : (10 : ℚ) ≠ 0), zpow_natCast]
  rw [Nat.pow_eq]
  push_cast
  ring

theorem compare_compares (a b : ℕ) : (compare a b).Compares a b := by
  rw [← cmp_eq_compare]
  exact cmp_compares a b

/-- Comparing scaled naturals, by their digits as far as these decide. -/
theorem compareScaled_compares (a : ℕ) (e : ℤ) (b : ℕ) (f : ℤ) :
    (compareScaled a e b f).Compares ((a : ℚ) * 10 ^ e) (b * 10 ^ f) := by
  unfold compareScaled
  split_ifs with hzero hlt hgt
  · rcases Nat.lt_trichotomy a b with h | h | h
    · obtain rfl : a = 0 := by omega
      rw [Nat.compare_eq_lt.mpr h]
      have hb : (0 : ℚ) < b := by exact_mod_cast h
      change (_ : ℚ) < _
      rw [Nat.cast_zero, zero_mul]
      positivity
    · obtain rfl : a = 0 := by omega
      obtain rfl : b = 0 := h.symm
      rw [Nat.compare_eq_eq.mpr rfl]
      change (_ : ℚ) = _
      rw [Nat.cast_zero, zero_mul, zero_mul]
    · obtain rfl : b = 0 := by omega
      rw [Nat.compare_eq_gt.mpr h]
      have ha : (0 : ℚ) < a := by exact_mod_cast h
      change (_ : ℚ) < _
      rw [Nat.cast_zero, zero_mul]
      positivity
  · exact scaled_lt_of_digits (by tauto) (by tauto) hlt
  · exact scaled_lt_of_digits (by tauto) (by tauto) hgt
  · rw [scaled_eq_of_le a (min_le_left e f), scaled_eq_of_le b (min_le_right e f)]
    have hscale : (0 : ℚ) < 10 ^ min e f := by positivity
    have hmono : StrictMono fun n : ℕ => (n : ℚ) * 10 ^ min e f := by
      intro m n hmn
      exact mul_lt_mul_of_pos_right (by exact_mod_cast hmn) hscale
    exact hmono.compares.mpr (compare_compares ..)

/-- Comparing scaled integers, by their signs first. -/
theorem compareSigned_compares (a e b f : ℤ) :
    (compareSigned a e b f).Compares ((a : ℚ) * 10 ^ e) (b * 10 ^ f) := by
  have hscale (k : ℤ) : (0 : ℚ) < 10 ^ k := by positivity
  have hneg {n : ℤ} (k : ℤ) (h : n < 0) : (n : ℚ) * 10 ^ k < 0 :=
    mul_neg_of_neg_of_pos (by exact_mod_cast h) (hscale k)
  have hnonneg {n : ℤ} (k : ℤ) (h : ¬ n < 0) : 0 ≤ (n : ℚ) * 10 ^ k :=
    mul_nonneg (by exact_mod_cast not_lt.mp h) (hscale k).le
  unfold compareSigned
  split_ifs with ha hb hb
  · have hsize {n : ℤ} (k : ℤ) (h : n < 0) :
        ((n.natAbs : ℕ) : ℚ) * 10 ^ k = -((n : ℚ) * 10 ^ k) := by
      rw [Nat.cast_natAbs, abs_of_neg h, Int.cast_neg, neg_mul]
    have hcompares := compareScaled_compares b.natAbs f a.natAbs e
    rw [hsize e ha, hsize f hb] at hcompares
    have hanti : StrictAnti fun x : ℚ => -x := fun _ _ => neg_lt_neg
    exact hanti.compares.mp hcompares
  · exact (hneg e ha).trans_le (hnonneg f hb)
  · exact (hneg f hb).trans_le (hnonneg e ha)
  · have hsize {n : ℤ} (h : ¬ n < 0) : ((n.natAbs : ℕ) : ℚ) = n := by
      rw [Nat.cast_natAbs, abs_of_nonneg (not_lt.mp h)]
    have hcompares := compareScaled_compares a.natAbs e b.natAbs f
    rwa [hsize ha, hsize hb] at hcompares

def Quantity.toRat (q : Quantity) : ℚ := q.numerator / q.denominator * 10 ^ q.exponent

theorem Quantity.compare_compares (p q : Quantity) : (p.compare q).Compares p.toRat q.toRat := by
  have hp : (0 : ℚ) < p.denominator := by exact_mod_cast p.denominator_pos
  have hq : (0 : ℚ) < q.denominator := by exact_mod_cast q.denominator_pos
  have hmono : StrictMono fun x : ℚ => x * (p.denominator * q.denominator) := fun _ _ h =>
    mul_lt_mul_of_pos_right h (mul_pos hp hq)
  have hcompares := compareSigned_compares (p.numerator * q.denominator) p.exponent
    (q.numerator * p.denominator) q.exponent
  have hleft : ((p.numerator * q.denominator : ℤ) : ℚ) * 10 ^ p.exponent =
      p.toRat * (p.denominator * q.denominator) := by
    unfold toRat
    push_cast
    field_simp
  have hright : ((q.numerator * p.denominator : ℤ) : ℚ) * 10 ^ q.exponent =
      q.toRat * (p.denominator * q.denominator) := by
    unfold toRat
    push_cast
    field_simp
  rw [hleft, hright] at hcompares
  exact hmono.compares.mp hcompares

noncomputable section

def Extended.toEReal : Extended → EReal
  | .below => ⊥
  | .finite q => ((q.toRat : ℝ) : EReal)
  | .above => ⊤

theorem Extended.compare_compares (p q : Extended) :
    (p.compare q).Compares p.toEReal q.toEReal := by
  cases p with
  | below =>
    cases q with
    | below => exact rfl
    | finite q => exact EReal.bot_lt_coe _
    | above => exact bot_lt_top
  | above =>
    cases q with
    | below => exact bot_lt_top
    | finite q => exact EReal.coe_lt_top _
    | above => exact rfl
  | finite p =>
    cases q with
    | below => exact EReal.bot_lt_coe _
    | above => exact EReal.coe_lt_top _
    | finite q =>
      have hmono : StrictMono fun x : ℚ => ((x : ℝ) : EReal) :=
        EReal.coe_strictMono.comp Rat.cast_strictMono
      exact hmono.compares.mpr (p.compare_compares q)

/-- The number that a floating-point number is: its signed mantissa times a power of two, or an
infinity. -/
def Binary64.toEReal? : Binary64 → Option EReal
  | .finite s m e => some (((signedNat s m : ℝ) * 2 ^ e : ℝ) : EReal)
  | .infinite s => some (if s then ⊥ else ⊤)
  | .nan => none

/-- The number that a decimal is: its signed coefficient times a power of ten, or an infinity. -/
def Decimal.toEReal? : Decimal → Option EReal
  | .finite s c e => some (((signedNat s c : ℝ) * 10 ^ e : ℝ) : EReal)
  | .infinite s => some (if s then ⊥ else ⊤)
  | .nan .. => none

theorem Quantity.toRat_ofInt (n : ℤ) : (Quantity.ofInt n).toRat = n := by
  simp [toRat, ofInt]

theorem Quantity.toRat_ofRat (q : ℚ) : (Quantity.ofRat q).toRat = q := by
  simp [toRat, ofRat, Rat.num_div_den]

theorem Binary64.extended?_toEReal (x : Binary64) :
    x.extended?.map Extended.toEReal = x.toEReal? := by
  cases x with
  | finite s m e =>
    have hrat : ((signedNat s (m * Nat.pow 2 e.toNat) : ℤ) : ℚ) / (Nat.pow 2 (-e).toNat : ℕ) *
        10 ^ (0 : ℤ) = signedNat s m * 2 ^ e := by
      have hsign : signedNat s (m * Nat.pow 2 e.toNat) = signedNat s m * 2 ^ e.toNat := by
        cases s <;> simp [signedNat]
      have hexp : (2 : ℚ) ^ e = 2 ^ e.toNat / 2 ^ (-e).toNat := by
        rw [← zpow_natCast, ← zpow_natCast, ← zpow_sub₀ (by norm_num)]
        congr 1
        omega
      rw [hsign, hexp, zpow_zero, mul_one, Nat.pow_eq]
      push_cast
      ring
    simp only [extended?, Option.map_some, Extended.toEReal, Quantity.toRat, hrat, toEReal?]
    push_cast
    rfl
  | infinite s => cases s <;> rfl
  | nan => rfl

theorem Decimal.extended?_toEReal (d : Decimal) :
    d.extended?.map Extended.toEReal = d.toEReal? := by
  cases d with
  | finite s c e =>
    simp [extended?, Extended.toEReal, Quantity.toRat, toEReal?]
  | infinite s => cases s <;> rfl
  | nan => rfl

end

end FluentBuilder.Number
