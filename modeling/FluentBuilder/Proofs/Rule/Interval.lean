import FluentBuilder.Proofs.Number.Order
import FluentBuilder.Proofs.Rule.Check

/-! A range as an interval of the extended real numbers: its rule keeps null and the numbers in the
interval, of whatever kind they are, and no truth value and no NaN. -/

namespace FluentBuilder

open Number

noncomputable section

/-- The extended real number that a value is. A truth value is none, and neither is a NaN. -/
def Value.toEReal? : Value → Option EReal
  | .int n => some ((n : ℝ) : EReal)
  | .float x => x.toEReal?
  | .decimal d => d.toEReal?
  | .fraction q => some ((q : ℝ) : EReal)
  | _ => none

/-- The number lies in the interval: above the minimum if there is one, and below the maximum if
there is one, or on a bound that is not excluded. -/
structure RangeBounds.Contains (b : RangeBounds) (x : EReal) : Prop where
  min : ∀ low, b.min.toEReal? = some low → if b.minExclusive then low < x else low ≤ x
  max : ∀ high, b.max.toEReal? = some high → if b.maxExclusive then x < high else x ≤ high

end

namespace Value

variable {v w : Value} {x y : EReal}

theorem exists_extended (h : v.toEReal? = some x) :
    ∃ p, v.extended? = some p ∧ p.toEReal = x := by
  cases v with
  | int n =>
    obtain rfl := Option.some.inj h
    refine ⟨_, rfl, ?_⟩
    rw [Extended.toEReal, Quantity.toRat_ofInt, Rat.cast_intCast]
  | fraction q =>
    obtain rfl := Option.some.inj h
    refine ⟨_, rfl, ?_⟩
    rw [Extended.toEReal, Quantity.toRat_ofRat]
  | float z =>
    rw [toEReal?, ← z.extended?_toEReal] at h
    exact Option.map_eq_some_iff.mp h
  | decimal d =>
    rw [toEReal?, ← d.extended?_toEReal] at h
    exact Option.map_eq_some_iff.mp h
  | _ => cases h

theorem isBelow_iff (hv : v.toEReal? = some x) (hw : w.toEReal? = some y) :
    v.isBelow w = true ↔ x < y := by
  obtain ⟨p, hp, rfl⟩ := exists_extended hv
  obtain ⟨q, hq, rfl⟩ := exists_extended hw
  unfold isBelow
  rw [hp, hq]
  exact beq_iff_eq.trans (p.compare_compares q).eq_lt

theorem equalNumbers_iff (hv : v.toEReal? = some x) (hw : w.toEReal? = some y) :
    v.equalNumbers w = true ↔ x = y := by
  obtain ⟨p, hp, rfl⟩ := exists_extended hv
  obtain ⟨q, hq, rfl⟩ := exists_extended hw
  unfold equalNumbers
  rw [hp, hq]
  exact beq_iff_eq.trans (p.compare_compares q).eq_eq

theorem isProperNumber_eq (h : ∀ e, ¬ v.Overflows e) :
    v.isProperNumber = .ok v.toEReal?.isSome := by
  cases v with
  | int n => rw [isProperNumber_int, if_neg fun hl => h _ (.int hl)]; rfl
  | fraction q => rw [isProperNumber_fraction, if_neg fun hl => h _ (.fraction hl)]; rfl
  | float z => cases z <;> rfl
  | decimal d => cases d <;> rfl
  | _ => rfl

theorem IsBound.exists_toEReal (h : v.IsBound) (hn : v ≠ .null) : ∃ x, v.toEReal? = some x := by
  obtain rfl | hp := h
  · exact absurd rfl hn
  · have hsmall (e : Fault) : ¬ v.Overflows e := by
      rw [← isProperNumber_eq_error_iff, hp]
      exact nofun
    rw [isProperNumber_eq hsmall] at hp
    exact Option.isSome_iff_exists.mp (Except.ok.inj hp)

variable {bound : Value} {exclusive : Bool}

theorem reaches_iff (hb : bound.IsBound) (hv : v.toEReal? = some x) :
    v.reaches bound exclusive = true ↔
      ∀ low, bound.toEReal? = some low → if exclusive then low < x else low ≤ x := by
  unfold reaches
  split
  · exact iff_of_true rfl fun low hl => nomatch hl
  · rename_i hn
    obtain ⟨low, hl⟩ := hb.exists_toEReal hn
    simp only [hl, Option.some.injEq, forall_eq', Bool.or_eq_true, Bool.and_eq_true,
      isBelow_iff hl hv, equalNumbers_iff hl hv]
    cases exclusive with
    | true => simp
    | false => simp [le_iff_lt_or_eq]

theorem staysWithin_iff (hb : bound.IsBound) (hv : v.toEReal? = some x) :
    v.staysWithin bound exclusive = true ↔
      ∀ high, bound.toEReal? = some high → if exclusive then x < high else x ≤ high := by
  unfold staysWithin
  split
  · exact iff_of_true rfl fun high hh => nomatch hh
  · rename_i hn
    obtain ⟨high, hh⟩ := hb.exists_toEReal hn
    simp only [hh, Option.some.injEq, forall_eq', Bool.or_eq_true, Bool.and_eq_true,
      isBelow_iff hv hh, equalNumbers_iff hv hh]
    cases exclusive with
    | true => simp
    | false => simp [le_iff_lt_or_eq]

end Value

theorem RangeBounds.contains_iff {b : RangeBounds} (hmin : b.min.IsBound) (hmax : b.max.IsBound)
    {v : Value} {x : EReal} (hv : v.toEReal? = some x) :
    (v.reaches b.min b.minExclusive && v.staysWithin b.max b.maxExclusive) = true ↔
      b.Contains x := by
  rw [Bool.and_eq_true, Value.reaches_iff hmin hv, Value.staysWithin_iff hmax hv]
  exact ⟨fun ⟨hlow, hhigh⟩ => ⟨hlow, hhigh⟩, fun ⟨hlow, hhigh⟩ => ⟨hlow, hhigh⟩⟩

theorem Test.exists_holds_within {b : RangeBounds} (hmin : b.min.IsBound) (hmax : b.max.IsBound)
    {v : Value} (hv : ∀ e, ¬ v.Overflows e) :
    ∃ passes, (within b).holds v = .ok passes ∧
      (passes = true ↔ v = .null ∨ ∃ x, v.toEReal? = some x ∧ b.Contains x) := by
  by_cases hn : v = .null
  · subst hn
    exact ⟨true, rfl, iff_of_true rfl (.inl rfl)⟩
  · rw [holds_within hn, Value.isProperNumber_eq hv]
    cases hx : v.toEReal? with
    | none => exact ⟨false, rfl, by simp [hn]⟩
    | some x =>
      refine ⟨_, rfl, ?_⟩
      rw [RangeBounds.contains_iff hmin hmax hx]
      simp [hn]

theorem resolveRange_isBound {f : FieldDescriptor} {b : RangeBounds} {r : Rule}
    (h : resolveRange f b = .ok r) : b.min.IsBound ∧ b.max.IsBound := by
  unfold resolveRange at h
  obtain ⟨t, -, h⟩ := (bind_eq_ok_iff ..).mp h
  simp only [bind_unit_eq_ok_iff, checkBound_eq_ok_iff] at h
  obtain ⟨-, -, hmin, hmax, -⟩ := h
  exact ⟨hmin, hmax⟩

/-- The rule of a range keeps null and the numbers in the interval, and looking at a value does not
break off, unless it is a whole number or a fraction beyond the floating-point range. Each bound that
is given is an extended real number. -/
theorem range_rule_keeps {owner : String} {f : FieldDescriptor} {rules : List Rule}
    (h : resolveConstraints owner f = .ok rules) {r : Rule} (hr : r ∈ rules) {b : RangeBounds}
    (hb : r.constraint = .range b) {v : Value} (hv : ∀ e, ¬ v.Overflows e) :
    (b.min ≠ .null → ∃ low, b.min.toEReal? = some low) ∧
      (b.max ≠ .null → ∃ high, b.max.toEReal? = some high) ∧
      ∃ passes, r.holds v = .ok passes ∧
        (passes = true ↔ v = .null ∨ ∃ x, v.toEReal? = some x ∧ b.Contains x) := by
  obtain ⟨k, -, hk⟩ := exists_constraint_of_mem h hr
  obtain ⟨henforces, htests⟩ := resolveConstraint_gives hk
  obtain rfl : k = .range b := henforces.constraint.symm.trans hb
  obtain ⟨hmin, hmax⟩ := resolveRange_isBound hk
  refine ⟨hmin.exists_toEReal, hmax.exists_toEReal, ?_⟩
  unfold Rule.holds
  generalize r.test = test at htests
  cases htests with
  | range => exact Test.exists_holds_within hmin hmax hv

/-- A number above a tenth, which itself is excluded. -/
def shareField : FieldDescriptor where
  name := "share"
  type := some { name := "double", kind := .scalar }
  constraints := [.range { min := .decimal (.finite false 1 (-1)), minExclusive := true,
                           max := .float (.infinite false) }]

/-- The floating-point number nearest to a tenth lies above it. -/
theorem range_rule_keeps_nearest :
    ∃ rules r, resolveConstraints "P" shareField = .ok rules ∧ r ∈ rules ∧
      r.holds (.float (.finite false 7205759403792794 (-56))) = .ok true ∧
      r.holds (.decimal (.finite false 10 (-2))) = .ok false := by
  obtain ⟨rules, hs⟩ := exists_eq_ok_of_toBool (x := resolveConstraints "P" shareField)
    (by decide +kernel)
  obtain ⟨r, rest, hr, -, rfl⟩ := List.forall₂_cons_left_iff.mp ((mapM_eq_ok_iff ..).mp hs)
  have hmem : r ∈ r :: rest := List.mem_cons_self
  have hb := (resolveConstraint_enforces hr).constraint
  obtain ⟨-, -, passes, hholds, hpasses⟩ := range_rule_keeps hs hmem hb
    (v := .float (.finite false 7205759403792794 (-56))) (by rintro e ⟨⟩)
  obtain ⟨-, -, fails, hbreaks, hfails⟩ := range_rule_keeps hs hmem hb
    (v := .decimal (.finite false 10 (-2))) (by rintro e ⟨⟩)
  refine ⟨_, r, hs, hmem, ?_, ?_⟩
  · rw [hholds, hpasses.mpr (.inr ⟨_, rfl, ?_, ?_⟩)]
    · rintro low hl
      obtain rfl := Option.some.inj hl
      have hlt : ((1 : ℤ) : ℝ) * 10 ^ (-1 : ℤ) < ((7205759403792794 : ℤ) : ℝ) * 2 ^ (-56 : ℤ) := by
        norm_num
      exact EReal.coe_lt_coe_iff.mpr hlt
    · rintro high hh
      obtain rfl := Option.some.inj hh
      exact le_top
  · have hfalse : fails = false := by
      rw [Bool.eq_false_iff]
      intro hf
      obtain hn | ⟨x, hx, hcontains⟩ := hfails.mp hf
      · cases hn
      · obtain rfl := Option.some.inj hx
        have hlt : ((1 : ℤ) : ℝ) * 10 ^ (-1 : ℤ) < ((10 : ℤ) : ℝ) * 10 ^ (-2 : ℤ) :=
          EReal.coe_lt_coe_iff.mp (hcontains.min _ rfl)
        norm_num at hlt
    rw [hbreaks, hfalse]

end FluentBuilder
