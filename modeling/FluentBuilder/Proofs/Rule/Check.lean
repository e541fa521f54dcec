import FluentBuilder.Proofs.Rule.Resolve

/-! Checking values against resolved rules: a value passes or commits a violation, unless it is a
number beyond the floating-point range, spoils the match of a pattern, or breaks the rule and cannot
be written into the message. -/

namespace FluentBuilder

open Text

/-- Looking at the value for the constraint breaks off. -/
inductive Constraint.BreaksOff : Constraint → Value → Fault → Prop
  | overflow {b : RangeBounds} {v : Value} {e : Fault} : v.Overflows e → BreaksOff (.range b) v e
  | spoiled {regex text : String} {compiled : Pattern.Compiled} :
      Pattern.compile regex.toList true = .ok compiled →
      compiled.matchWhole (codes text.toList).toArray = .spoiled →
      BreaksOff (.pattern (.text regex)) (.text text) .spoiledGroup

namespace Test

/-- What is there is asked whether it is a number before it is compared with the bounds. -/
theorem holds_within {b : RangeBounds} {v : Value} (hv : v ≠ .null) :
    (within b).holds v = v.isProperNumber >>= fun proper =>
      if !proper then pure false
      else pure (v.reaches b.min b.minExclusive && v.staysWithin b.max b.maxExclusive) := by
  cases v <;> first | exact absurd rfl hv | rfl

theorem holds_within_eq_error_iff (b : RangeBounds) (v : Value) (e : Fault) :
    (within b).holds v = .error e ↔ v.Overflows e := by
  rw [← v.isProperNumber_eq_error_iff]
  by_cases hv : v = .null
  · subst hv
    simp [holds, Value.isProperNumber]
  · rw [holds_within hv, bind_eq_error_iff]
    constructor
    · rintro (hp | ⟨proper, -, hf⟩)
      · exact hp
      · cases proper <;> cases hf
    · exact .inl

theorem holds_sizeWithin_ne_error (low : ℕ) (high : Option ℕ) (v : Value) (e : Fault) :
    (sizeWithin low high).holds v ≠ .error e := by
  cases v with
  | null => simp [holds]
  | _ =>
    unfold holds
    dsimp only
    split
    · simp
    · simp

theorem holds_matching_eq_error_iff (compiled : Pattern.Compiled) (v : Value) (e : Fault) :
    (matching compiled).holds v = .error e ↔
      ∃ text, v = .text text ∧ compiled.matchWhole (codes text.toList).toArray = .spoiled ∧
        e = .spoiledGroup := by
  cases v with
  | text s =>
    unfold holds
    cases hm : compiled.matchWhole (codes s.toList).toArray <;> simp [hm, eq_comm]
  | _ => simp [holds]

end Test

theorem Constraint.Tests.holds_eq_error_iff {k : Constraint} {test : Test} (h : k.Tests test)
    (v : Value) (e : Fault) : test.holds v = .error e ↔ k.BreaksOff v e := by
  cases h with
  | nonNull =>
    have hok : ∃ passes, Test.present.holds v = .ok passes := by
      cases v <;> exact ⟨_, rfl⟩
    obtain ⟨passes, hp⟩ := hok
    rw [hp]
    exact ⟨nofun, nofun⟩
  | nonEmpty =>
    have hok : Test.filled.holds v = .ok (v.size?.getD 0 != 0) := by
      cases v <;> rfl
    rw [hok]
    exact ⟨nofun, nofun⟩
  | range b =>
    rw [Test.holds_within_eq_error_iff]
    constructor
    · exact .overflow
    · rintro ⟨hv⟩
      exact hv
  | size low high =>
    constructor
    · exact fun hf => absurd hf (Test.holds_sizeWithin_ne_error _ _ v e)
    · exact nofun
  | @pattern regex compiled hc =>
    rw [Test.holds_matching_eq_error_iff]
    constructor
    · rintro ⟨text, rfl, hm, rfl⟩
      exact .spoiled hc hm
    · intro hb
      cases hb with
      | @spoiled _ text other ho hm =>
        obtain rfl : other = compiled := Except.ok.inj (ho.symm.trans hc)
        exact ⟨text, rfl, hm, rfl⟩

namespace Rule

variable {r : Rule}

/-- What a check comes to: the value passes, or it commits a violation that shows it, or it cannot be
looked at or not be shown. -/
theorem check_cases (r : Rule) (v : Value) :
    r.holds v = .ok true ∧ r.check v = .ok () ∨
      r.holds v = .ok false ∧ v.hasLongNumber = false ∧
        r.check v = .error (.violation (r.violation v)) ∨
      r.holds v = .ok false ∧ v.hasLongNumber = true ∧
        r.check v = .error (.fault (.longNumber none)) ∨
      ∃ e, r.holds v = .error e ∧ r.check v = .error (.fault e) := by
  unfold check
  cases hh : r.holds v with
  | error e => exact .inr (.inr (.inr ⟨e, rfl, rfl⟩))
  | ok passes =>
    cases passes with
    | true => exact .inl ⟨rfl, rfl⟩
    | false =>
      cases hl : v.hasLongNumber with
      | false => exact .inr (.inl ⟨rfl, rfl, rfl⟩)
      | true => exact .inr (.inr (.inl ⟨rfl, rfl, rfl⟩))

theorem check_eq_fault_iff (r : Rule) (v : Value) (e : Fault) :
    r.check v = .error (.fault e) ↔
      r.holds v = .error e ∨
        r.holds v = .ok false ∧ v.hasLongNumber = true ∧ e = .longNumber none := by
  obtain ⟨hh, hc⟩ | ⟨hh, hl, hc⟩ | ⟨hh, hl, hc⟩ | ⟨e', hh, hc⟩ := r.check_cases v
  · simp [hh, hc]
  · simp [hh, hc, hl]
  · simp [hh, hc, hl, eq_comm]
  · simp [hh, hc]

end Rule

/-- A rule of a field passes a value or reports the violation of it, exactly if looking at the value
does not break off and a value that breaks the rule can be written. Otherwise the check ends with the
fault that says why. -/
theorem check_reports_iff {owner : String} {f : FieldDescriptor} {rules : List Rule}
    (h : resolveConstraints owner f = .ok rules) {r : Rule} (hr : r ∈ rules) (v : Value) :
    r.fieldName = f.name ∧ r.constraint ∈ f.constraints ∧
      ((r.check v = .ok () ∨ ∃ x, r.check v = .error (.violation x) ∧ x.field = r.fieldName ∧
          x.kind = r.kind ∧ x.value = v) ↔
        (∀ e, ¬ r.constraint.BreaksOff v e) ∧ (r.holds v = .ok false → v.hasLongNumber = false)) ∧
      ∀ e, r.check v = .error (.fault e) ↔ r.constraint.BreaksOff v e ∨
        r.holds v = .ok false ∧ v.hasLongNumber = true ∧ e = .longNumber none := by
  obtain ⟨k, hk, hres⟩ := exists_of_forall₂_right ((mapM_eq_ok_iff ..).mp h) hr
  obtain ⟨he, htests⟩ := resolveConstraint_gives hres
  have hbreaks (e : Fault) : r.holds v = .error e ↔ r.constraint.BreaksOff v e := by
    rw [he.constraint]
    exact htests.holds_eq_error_iff v e
  refine ⟨he.fieldName, he.constraint ▸ hk, ?_, fun e => ?_⟩
  · simp only [← hbreaks]
    obtain ⟨hh, hc⟩ | ⟨hh, hl, hc⟩ | ⟨hh, hl, hc⟩ | ⟨e, hh, hc⟩ := r.check_cases v
    · simp [hh, hc]
    · simp [hh, hc, hl, Rule.violation]
    · simp [hh, hc, hl]
    · simp [hh, hc]
  · rw [r.check_eq_fault_iff, hbreaks]

def digitField : FieldDescriptor where
  name := "x"
  type := some { name := "int", kind := .scalar }
  constraints := [.range { min := .int 1, max := .int 9 }]

theorem exists_digitRule :
    ∃ r, resolveConstraints "P" digitField = .ok [r] ∧
      r.test = .within { min := .int 1, max := .int 9 } := by
  obtain ⟨rules, hs⟩ := exists_eq_ok_of_toBool (x := resolveConstraints "P" digitField)
    (by decide +kernel)
  obtain ⟨r, _, hr, hnil, rfl⟩ := List.forall₂_cons_left_iff.mp ((mapM_eq_ok_iff ..).mp hs)
  obtain rfl := List.forall₂_nil_left_iff.mp hnil
  refine ⟨r, hs, ?_⟩
  obtain ⟨-, htests⟩ := resolveConstraint_gives hr
  generalize r.test = test at htests
  cases htests with
  | range b => rfl

theorem check_reports_iff_twelve :
    ∃ rules r x, resolveConstraints "P" digitField = .ok rules ∧ r ∈ rules ∧
      r.check (.int 12) = .error (.violation x) ∧ x.field = "x" ∧ x.kind = "range" ∧
      x.value = .int 12 := by
  obtain ⟨r, hrules, htest⟩ := exists_digitRule
  have hbreaks : r.holds (.int 12) = .ok false := by
    unfold Rule.holds
    rw [htest]
    exact eq_ok_of_toOption (by decide +kernel)
  have hmem : r ∈ [r] := List.mem_cons_self
  obtain ⟨hfield, hmemk, hreports, -⟩ := check_reports_iff hrules hmem (.int 12)
  have hk : r.constraint = .range { min := .int 1, max := .int 9 } := List.mem_singleton.mp hmemk
  have hsmall : ¬ Number.Binary64.overflowLimit ≤ 12 := by decide +kernel
  have hseen (e : Fault) : ¬ r.constraint.BreaksOff (.int 12) e := by
    rw [hk]
    rintro ⟨⟨hl⟩⟩
    exact hsmall hl
  obtain hpass | ⟨x, hx, hxfield, hxkind, hxvalue⟩ := hreports.mpr ⟨hseen, fun _ => by decide +kernel⟩
  · rw [Rule.check_eq_ok_iff, hbreaks] at hpass
    cases hpass
  · refine ⟨[r], r, x, hrules, hmem, hx, hxfield.trans hfield, ?_, hxvalue⟩
    rw [hxkind, Rule.kind, hk]
    rfl

/-- The least power of two beyond the floating-point range is above nine, but it is not reported. -/
theorem check_beyondFloats :
    ∃ rules r, resolveConstraints "P" digitField = .ok rules ∧ r ∈ rules ∧
      r.check (.int (2 ^ 1024)) = .error (.fault .integerTooLarge) := by
  obtain ⟨r, hrules, htest⟩ := exists_digitRule
  refine ⟨[r], r, hrules, List.mem_cons_self, ?_⟩
  rw [r.check_eq_fault_iff]
  unfold Rule.holds
  rw [htest, Test.holds_within_eq_error_iff]
  have hlarge : Number.Binary64.overflowLimit ≤ (2 ^ 1024 : ℤ).natAbs := by decide +kernel
  exact .inl (.int hlarge)

end FluentBuilder
