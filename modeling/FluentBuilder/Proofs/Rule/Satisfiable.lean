import FluentBuilder.Proofs.Rule.Interval

/-! Which ranges are accepted: those that some number lies in. Besides them a range is accepted whose
only bound is the infinity at its own end, and excluded, although no number lies beyond that. -/

namespace FluentBuilder

open Number

/-- No bound, a whole number within the floating-point range, or a floating-point or decimal number
other than a NaN. -/
inductive Value.IsPlainBound : Value → Prop
  | absent : IsPlainBound .null
  | int {n : Int} : n.natAbs < Binary64.overflowLimit → IsPlainBound (.int n)
  | float {x : Binary64} : x.isNaN = false → IsPlainBound (.float x)
  | decimal {d : Decimal} : d.isNaN = false → IsPlainBound (.decimal d)

namespace Value

theorem isLong_of_lt_overflowLimit {n : Int} (h : n.natAbs < Binary64.overflowLimit) :
    isLong n = false := by
  have hlimit : (Binary64.overflowLimit : ℚ) ≤ ((10 ^ digitLimit : ℕ) : ℚ) :=
    calc (Binary64.overflowLimit : ℚ) ≤ 2 ^ (1024 : ℤ) := Binary64.overflowLimit_bounds.2
      _ ≤ 10 ^ (1024 : ℤ) := zpow_le_zpow_left₀ (by norm_num) (by norm_num) (by norm_num)
      _ ≤ 10 ^ (digitLimit : ℤ) := zpow_le_zpow_right₀ (by norm_num) (by norm_num [digitLimit])
      _ = ((10 ^ digitLimit : ℕ) : ℚ) := by rw [zpow_natCast, Nat.cast_pow, Nat.cast_ofNat]
  unfold isLong
  generalize digitLimit = digits at hlimit ⊢
  rw [decide_eq_false_iff_not, not_le, Nat.pow_eq]
  exact h.trans_le (Nat.cast_le.mp hlimit)

variable {v : Value}

theorem IsPlainBound.isBound (h : v.IsPlainBound) : v.IsBound := by
  cases h with
  | absent => exact .inl rfl
  | int hn =>
    right
    rw [isProperNumber_int, if_neg (not_le.mpr hn)]
  | float hx =>
    right
    rw [isProperNumber, hx]
    rfl
  | decimal hd =>
    right
    rw [isProperNumber, hd]
    rfl

theorem IsPlainBound.hasLongNumber (h : v.IsPlainBound) : v.hasLongNumber = false := by
  cases h with
  | int hn => exact isLong_of_lt_overflowLimit hn
  | _ => rfl

end Value

namespace RangeBounds

/-- Some number lies in the interval. -/
def IsSatisfiable (b : RangeBounds) : Prop :=
  ∃ (v : Value) (x : EReal), v.toEReal? = some x ∧ b.Contains x

/-- The only bound is the infinity at its own end, and it is excluded. -/
inductive IsBeyondAll (b : RangeBounds) : Prop
  | above : b.min.toEReal? = some ⊤ → b.minExclusive = true → b.max = .null → IsBeyondAll b
  | below : b.max.toEReal? = some ⊥ → b.maxExclusive = true → b.min = .null → IsBeyondAll b

/-- If there are two bounds, the lower one lies below the upper one, or on it where neither is
excluded. -/
def IsOrdered (b : RangeBounds) : Prop :=
  ∀ low high, b.min.toEReal? = some low → b.max.toEReal? = some high →
    low < high ∨ low = high ∧ b.minExclusive = false ∧ b.maxExclusive = false

variable {b : RangeBounds}

theorem IsSatisfiable.isOrdered (h : b.IsSatisfiable) : b.IsOrdered := by
  obtain ⟨v, x, -, hmin, hmax⟩ := h
  intro low high hlow hhigh
  have hlow := hmin low hlow
  have hhigh := hmax high hhigh
  cases hx : b.minExclusive with
  | true =>
    rw [if_pos hx] at hlow
    left
    split_ifs at hhigh
    · exact hlow.trans hhigh
    · exact hlow.trans_le hhigh
  | false =>
    rw [hx, if_neg Bool.false_ne_true] at hlow
    cases hy : b.maxExclusive with
    | true =>
      rw [if_pos hy] at hhigh
      exact .inl (hlow.trans_lt hhigh)
    | false =>
      rw [hy, if_neg Bool.false_ne_true] at hhigh
      exact (hlow.trans hhigh).lt_or_eq.imp id fun he => ⟨he, rfl, rfl⟩

theorem IsBeyondAll.not_isSatisfiable (h : b.IsBeyondAll) : ¬ b.IsSatisfiable := by
  rintro ⟨v, x, -, hmin, hmax⟩
  cases h with
  | above htop hx =>
    have hlt := hmin ⊤ htop
    rw [if_pos hx] at hlt
    exact not_top_lt hlt
  | below hbot hx =>
    have hlt := hmax ⊥ hbot
    rw [if_pos hx] at hlt
    exact not_lt_bot hlt

theorem IsBeyondAll.isOrdered (h : b.IsBeyondAll) : b.IsOrdered := by
  intro low high hlow hhigh
  cases h with
  | above _ _ hn => rw [hn] at hhigh; cases hhigh
  | below _ _ hn => rw [hn] at hlow; cases hlow

/-- Upwards without end the infinity is reached, unless it is the bound and excluded. -/
theorem isSatisfiable_of_max_null (hmax : b.max = .null) (h : ¬ b.IsBeyondAll) :
    b.IsSatisfiable := by
  refine ⟨.float (.infinite false), ⊤, rfl, fun low hlow => ?_, fun high hhigh => ?_⟩
  · split_ifs with hx
    · refine lt_top_iff_ne_top.mpr fun htop => h (.above ?_ hx hmax)
      rw [hlow, htop]
    · exact le_top
  · rw [hmax] at hhigh
    cases hhigh

theorem isSatisfiable_of_min_null (hmin : b.min = .null) (h : ¬ b.IsBeyondAll) :
    b.IsSatisfiable := by
  refine ⟨.float (.infinite true), ⊥, rfl, fun low hlow => ?_, fun high hhigh => ?_⟩
  · rw [hmin] at hlow
    cases hlow
  · split_ifs with hx
    · refine bot_lt_iff_ne_bot.mpr fun hbot => h (.below ?_ hx hmin)
      rw [hhigh, hbot]
    · exact bot_le

/-- Between two bounds there is a fraction, or they are one number, which is not excluded. -/
theorem IsOrdered.isSatisfiable {low high : EReal} (h : b.IsOrdered)
    (hlow : b.min.toEReal? = some low) (hhigh : b.max.toEReal? = some high) :
    b.IsSatisfiable := by
  have hcontains {x : EReal} (hx : if b.minExclusive then low < x else low ≤ x)
      (hy : if b.maxExclusive then x < high else x ≤ high) : b.Contains x := by
    refine ⟨fun l hl => ?_, fun u hu => ?_⟩
    · rwa [Option.some.inj (hl.symm.trans hlow)]
    · rwa [Option.some.inj (hu.symm.trans hhigh)]
  obtain hlt | ⟨rfl, hx, hy⟩ := h low high hlow hhigh
  · obtain ⟨q, hql, hqh⟩ := EReal.lt_iff_exists_rat_btwn.mp hlt
    refine ⟨.fraction q, _, rfl, hcontains ?_ ?_⟩
    · split_ifs
      · exact hql
      · exact hql.le
    · split_ifs
      · exact hqh
      · exact hqh.le
  · refine ⟨b.min, low, hlow, hcontains ?_ ?_⟩
    · simp [hx]
    · simp [hy]

/-- The order of two bounds is all that can be wrong with an interval, apart from an infinity that
nothing lies beyond. -/
theorem isOrdered_iff (hmin : b.min.IsBound) (hmax : b.max.IsBound) :
    b.IsOrdered ↔ b.IsSatisfiable ∨ b.IsBeyondAll := by
  constructor
  · intro h
    by_cases hbeyond : b.IsBeyondAll
    · exact .inr hbeyond
    left
    by_cases hn : b.min = .null
    · exact isSatisfiable_of_min_null hn hbeyond
    by_cases hx : b.max = .null
    · exact isSatisfiable_of_max_null hx hbeyond
    obtain ⟨low, hlow⟩ := hmin.exists_toEReal hn
    obtain ⟨high, hhigh⟩ := hmax.exists_toEReal hx
    exact h.isSatisfiable hlow hhigh
  · rintro (h | h)
    · exact h.isOrdered
    · exact h.isOrdered

end RangeBounds

theorem checkInterval_cases (f : FieldDescriptor) {b : RangeBounds} (hmin : b.min.IsBound)
    (hmax : b.max.IsBound) :
    (checkInterval f b = .ok () ∧ b.IsOrdered) ∨
      ∃ flaw : ConstraintFlaw, flaw.shown = [b.min, b.max] ∧
        checkInterval f b = refuse f (.range b) flaw ∧ ¬ b.IsOrdered := by
  unfold checkInterval
  split
  · rename_i hn
    exact .inl ⟨rfl, fun low high hlow => by rw [hn] at hlow; cases hlow⟩
  · rename_i hx _
    exact .inl ⟨rfl, fun low high _ hhigh => by rw [hx] at hhigh; cases hhigh⟩
  · rename_i hn hx
    obtain ⟨low, hlow⟩ := hmin.exists_toEReal hn
    obtain ⟨high, hhigh⟩ := hmax.exists_toEReal hx
    have hordered : b.IsOrdered ↔
        low < high ∨ low = high ∧ b.minExclusive = false ∧ b.maxExclusive = false := by
      simp [RangeBounds.IsOrdered, hlow, hhigh]
    have hbelow := Value.isBelow_iff hhigh hlow
    have hequal := Value.equalNumbers_iff hlow hhigh
    simp only [hordered, hbelow, Bool.and_eq_true, hequal, Bool.or_eq_true]
    split_ifs with hlt heq
    · exact .inr ⟨_, rfl, rfl, by simp [hlt.le, hlt.ne']⟩
    · refine .inr ⟨_, rfl, rfl, ?_⟩
      obtain ⟨rfl, hexclusive⟩ := heq
      rcases hexclusive with he | he <;> simp [he]
    · refine .inl ⟨rfl, (not_lt.mp hlt).lt_or_eq.imp id fun he => ⟨he, ?_⟩⟩
      simpa [he] using heq

section

variable {f : FieldDescriptor} {t : TypeRef} {b : RangeBounds}

theorem resolveRange_cases (ht : f.type = some t) (hn : t.numeric = true) (hb : b.isBounded = true)
    (hmin : b.min.IsPlainBound) (hmax : b.max.IsPlainBound) :
    ((∃ r, resolveRange f b = .ok r) ∧ b.IsOrdered) ∨
      (∃ flaw, resolveRange f b = .error (.generation (.invalidConstraint f.name (.range b) flaw))) ∧
        ¬ b.IsOrdered := by
  have hlong : [b.min, b.max].any (·.hasLongNumber) = false := by
    simp [hmin.hasLongNumber, hmax.hasLongNumber]
  have hwritten : checkWritten [b.min, b.max] = .ok () := by
    unfold checkWritten
    rw [hlong, if_neg Bool.false_ne_true]
  have hlow := (checkBound_eq_ok_iff f (.range b) b.min).mpr hmin.isBound
  have hhigh := (checkBound_eq_ok_iff f (.range b) b.max).mpr hmax.isBound
  unfold resolveRange
  rw [typeFor_bind ht, hn, hb, hlow, hhigh, hwritten]
  obtain ⟨hok, hordered⟩ | ⟨flaw, hshown, hrefused, hordered⟩ :=
    checkInterval_cases f hmin.isBound hmax.isBound
  · rw [hok]
    exact .inl ⟨⟨_, rfl⟩, hordered⟩
  · refine .inr ⟨⟨flaw, ?_⟩, hordered⟩
    rw [hrefused]
    unfold refuse GenerationError.failure
    rw [GenerationError.shown, hshown, hlong]
    rfl

/-- A range on a numeric field is accepted if some number lies in its interval, and one whose only
bound is the infinity at its own end, excluded, is accepted although none does. Every other range is
refused as an invalid constraint, if the constraints before it are accepted. -/
theorem range_accepted_iff (owner : String) (ht : f.type = some t) (hn : t.numeric = true)
    (hb : b.isBounded = true) (hmin : b.min.IsPlainBound) (hmax : b.max.IsPlainBound) :
    ((∃ r, resolveConstraint owner f (.range b) = .ok r) ↔ b.IsSatisfiable ∨ b.IsBeyondAll) ∧
      (b.IsBeyondAll → ¬ b.IsSatisfiable) ∧
      (¬ (b.IsSatisfiable ∨ b.IsBeyondAll) → ∃ flaw, ∀ before after,
        f.constraints = before ++ .range b :: after →
        (∀ k ∈ before, ∃ r, resolveConstraint owner f k = .ok r) →
        resolveConstraints owner f =
          .error (.generation (.invalidConstraint f.name (.range b) flaw))) := by
  rw [← RangeBounds.isOrdered_iff hmin.isBound hmax.isBound]
  refine ⟨?_, RangeBounds.IsBeyondAll.not_isSatisfiable, fun hordered => ?_⟩
  · obtain ⟨hok, hordered⟩ | ⟨⟨flaw, herror⟩, hordered⟩ := resolveRange_cases ht hn hb hmin hmax
    · exact iff_of_true hok hordered
    · refine iff_of_false (fun hok => ?_) hordered
      obtain ⟨r, hr⟩ := hok
      cases herror.symm.trans hr
  · obtain ⟨-, hcontra⟩ | ⟨⟨flaw, herror⟩, -⟩ := resolveRange_cases ht hn hb hmin hmax
    · exact absurd hcontra hordered
    · refine ⟨flaw, fun before after hf hbefore => ?_⟩
      exact (mapM_eq_error_iff ..).mpr ⟨before, .range b, after, hf, hbefore, herror⟩

end

def nearTenth : Value := .float (.finite false 7205759403792794 (-56))

/-- Above a tenth and below the floating-point number nearest to it. -/
def aboveTenth : RangeBounds where
  min := .decimal (.finite false 1 (-1))
  max := nearTenth
  minExclusive := true
  maxExclusive := true

/-- From the floating-point number nearest to a tenth up to a tenth. -/
def downToTenth : RangeBounds where
  min := nearTenth
  max := .decimal (.finite false 1 (-1))

def tenthField : FieldDescriptor where
  name := "share"
  type := some { name := "double", kind := .scalar }
  constraints := [.range aboveTenth, .range downToTenth]

/-- The floating-point number nearest to a tenth lies above it: there are numbers between them, but
none the other way round. -/
theorem range_accepted_iff_tenth :
    (∃ r, resolveConstraint "P" tenthField (.range aboveTenth) = .ok r) ∧
      ∃ flaw, resolveConstraints "P" tenthField =
        .error (.generation (.invalidConstraint "share" (.range downToTenth) flaw)) := by
  have hdecimal : Value.IsPlainBound (.decimal (.finite false 1 (-1))) := .decimal rfl
  have hfloat : nearTenth.IsPlainBound := .float rfl
  have hsome : aboveTenth.IsSatisfiable := by
    refine ⟨.decimal (.finite false 1000000000000000005 (-19)), _, rfl, fun low hl => ?_,
      fun high hh => ?_⟩
    · obtain rfl := Option.some.inj hl
      have hlt : ((1 : ℤ) : ℝ) * 10 ^ (-1 : ℤ) <
          ((1000000000000000005 : ℤ) : ℝ) * 10 ^ (-19 : ℤ) := by
        norm_num
      exact EReal.coe_lt_coe_iff.mpr hlt
    · obtain rfl := Option.some.inj hh
      have hlt : ((1000000000000000005 : ℤ) : ℝ) * 10 ^ (-19 : ℤ) <
          ((7205759403792794 : ℤ) : ℝ) * 2 ^ (-56 : ℤ) := by
        norm_num
      exact EReal.coe_lt_coe_iff.mpr hlt
  have hnone : ¬ (downToTenth.IsSatisfiable ∨ downToTenth.IsBeyondAll) := by
    rintro (⟨v, x, -, hmin, hmax⟩ | ⟨-, -, hn⟩ | ⟨-, -, hn⟩)
    · have hle : ((7205759403792794 : ℤ) : ℝ) * 2 ^ (-56 : ℤ) ≤ ((1 : ℤ) : ℝ) * 10 ^ (-1 : ℤ) :=
        EReal.coe_le_coe_iff.mp ((hmin _ rfl).trans (hmax _ rfl))
      norm_num at hle
    · cases hn
    · cases hn
  obtain ⟨haccepted, -⟩ := range_accepted_iff "P" (f := tenthField) (b := aboveTenth)
    rfl (by decide) rfl hdecimal hfloat
  obtain ⟨-, -, hrefused⟩ := range_accepted_iff "P" (f := tenthField)
    (b := downToTenth) rfl (by decide) rfl hfloat hdecimal
  have hok := haccepted.mpr (.inl hsome)
  obtain ⟨flaw, hflaw⟩ := hrefused hnone
  refine ⟨hok, flaw, hflaw [.range aboveTenth] [] rfl fun k hk => ?_⟩
  obtain rfl := List.mem_singleton.mp hk
  exact hok

/-- A number of any size above the largest, and nothing else. -/
def aboveAll : RangeBounds where
  min := .float (.infinite false)
  minExclusive := true

/-- The range is accepted, although no number lies in it. -/
theorem range_accepted_without_number :
    (∃ rules, resolveConstraints "P" { tenthField with constraints := [.range aboveAll] } =
        .ok rules) ∧
      ∀ (v : Value) (x : EReal), v.toEReal? = some x → ¬ aboveAll.Contains x := by
  refine ⟨exists_eq_ok_of_toBool (by decide +kernel), fun v x _ hcontains => ?_⟩
  have hlt := hcontains.min ⊤ rfl
  exact not_top_lt hlt

end FluentBuilder
