import FluentBuilder.Proofs.Rule.Fault

/-! Resolved rules keep the field and the constraint they were made from and test for just that
constraint, and null passes all but those that demand presence. -/

namespace FluentBuilder

def Constraint.demandsPresence : Constraint → Bool
  | .nonNull | .nonEmpty => true
  | _ => false

/-- The rule is about the constraint of the field. -/
structure Rule.Enforces (r : Rule) (f : FieldDescriptor) (k : Constraint) : Prop where
  fieldName : r.fieldName = f.name
  constraint : r.constraint = k
  holds_null : r.holds .null = .ok (!k.demandsPresence)

/-- The test that a constraint stands for. -/
inductive Constraint.Tests : Constraint → Test → Prop
  | nonNull : Tests .nonNull .present
  | nonEmpty : Tests .nonEmpty .filled
  | range (b : RangeBounds) : Tests (.range b) (.within b)
  | size (low high : Option ℕ) :
      Tests (.size (.ofSize low) (.ofSize high)) (.sizeWithin (low.getD 0) high)
  | pattern {regex : String} {compiled : Pattern.Compiled} :
      Pattern.compile regex.toList true = .ok compiled →
      Tests (.pattern (.text regex)) (.matching compiled)

/-- The expression of a rule with the test, on a field of the name. -/
inductive Test.Spells (name : String) : Test → String → Prop
  | present : Spells name .present (name ++ " != null")
  | filled : Spells name .filled (name ++ " != null && size(" ++ name ++ ") > 0")
  | within {b : RangeBounds} : b.isBounded = true →
      Spells name (.within b) (" && ".intercalate (rangeChecks name b))
  | atLeast (low : ℕ) : Spells name (.sizeWithin low none)
      ("size(" ++ name ++ ") >= " ++ Number.natText low)
  | between (low high : ℕ) : Spells name (.sizeWithin low (some high))
      ("size(" ++ name ++ ") >= " ++ Number.natText low ++ " && size(" ++ name ++ ") <= " ++
        Number.natText high)
  | matching {regex : String} {compiled : Pattern.Compiled} :
      Pattern.compile regex.toList true = .ok compiled →
      Spells name (.matching compiled) ("matches(" ++ name ++ ", " ++ Json.quoted regex ++ ")")

/-- The message of a rule with the test, on a field of the name. -/
inductive Test.Says (name : String) : Test → String → Prop
  | present : Says name .present (name ++ " must not be null")
  | filled : Says name .filled (name ++ " must not be empty")
  | within {b : RangeBounds} : b.isBounded = true → Says name (.within b) (rangeMessage name b)
  | atLeast (low : ℕ) : Says name (.sizeWithin low none)
      ("size of " ++ name ++ " must be at least " ++ Number.natText low)
  | between (low high : ℕ) : Says name (.sizeWithin low (some high))
      ("size of " ++ name ++ " must be between " ++ Number.natText low ++ " and " ++
        Number.natText high)
  | matching {regex : String} {compiled : Pattern.Compiled} :
      Pattern.compile regex.toList true = .ok compiled →
      Says name (.matching compiled) (name ++ " must match pattern " ++ regex)

section

variable {f : FieldDescriptor} {r : Rule}

theorem eq_true_of_demand {k : Constraint} {holds : Bool} {flaw : ConstraintFlaw}
    (h : demand f k holds flaw = .ok ()) : holds = true := by
  unfold demand at h
  cases holds with
  | true => rfl
  | false => cases h

theorem resolveNonNull_gives (h : resolveNonNull f = .ok r) :
    r.Enforces f .nonNull ∧ Constraint.nonNull.Tests r.test ∧ r.test.Says f.name r.message ∧
      r.test.Spells f.name r.expression := by
  unfold resolveNonNull at h
  simp only [bind_eq_ok_iff, pure, Except.pure, Except.ok.injEq] at h
  obtain ⟨t, -, -, -, rfl⟩ := h
  exact ⟨⟨rfl, rfl, rfl⟩, .nonNull, .present, .present⟩

theorem resolveNonEmpty_gives (h : resolveNonEmpty f = .ok r) :
    r.Enforces f .nonEmpty ∧ Constraint.nonEmpty.Tests r.test ∧ r.test.Says f.name r.message ∧
      r.test.Spells f.name r.expression := by
  unfold resolveNonEmpty at h
  simp only [bind_eq_ok_iff, pure, Except.pure, Except.ok.injEq] at h
  obtain ⟨t, -, -, -, rfl⟩ := h
  exact ⟨⟨rfl, rfl, rfl⟩, .nonEmpty, .filled, .filled⟩

theorem resolveRange_gives {b : RangeBounds} (h : resolveRange f b = .ok r) :
    r.Enforces f (.range b) ∧ (Constraint.range b).Tests r.test ∧ r.test.Says f.name r.message ∧
      r.test.Spells f.name r.expression := by
  unfold resolveRange at h
  simp only [bind_eq_ok_iff, pure, Except.pure, Except.ok.injEq] at h
  obtain ⟨t, -, -, -, ⟨⟩, hbounded, -, -, -, -, -, -, -, -, rfl⟩ := h
  have hb := eq_true_of_demand hbounded
  exact ⟨⟨rfl, rfl, rfl⟩, .range b, .within hb, .within hb⟩

theorem resolveSize_gives {min max : Value} (h : resolveSize f min max = .ok r) :
    r.Enforces f (.size min max) ∧ (Constraint.size min max).Tests r.test ∧
      r.test.Says f.name r.message ∧ r.test.Spells f.name r.expression := by
  unfold resolveSize at h
  simp only [bind_eq_ok_iff, sizeBound?_eq_ok_iff, pure, Except.pure, Except.ok.injEq] at h
  obtain ⟨t, -, -, -, low, rfl, high, rfl, -, -, -, -, rfl⟩ := h
  refine ⟨⟨rfl, rfl, rfl⟩, .size low high, ?_⟩
  cases high with
  | none => exact ⟨.atLeast _, .atLeast _⟩
  | some high => exact ⟨.between _ high, .between _ high⟩

theorem resolvePattern_gives {regex : Value} (h : resolvePattern f regex = .ok r) :
    r.Enforces f (.pattern regex) ∧ (Constraint.pattern regex).Tests r.test ∧
      r.test.Says f.name r.message ∧ r.test.Spells f.name r.expression := by
  unfold resolvePattern at h
  simp only [bind_eq_ok_iff] at h
  obtain ⟨t, -, -, -, h⟩ := h
  split at h
  · simp only [bind_eq_ok_iff, pure, Except.pure, Except.ok.injEq] at h
    obtain ⟨compiled, hc, rfl⟩ := h
    have hcompiled := (compilePattern_eq_ok_iff ..).mp hc
    exact ⟨⟨rfl, rfl, rfl⟩, .pattern hcompiled, .matching hcompiled, .matching hcompiled⟩
  · simp [bind_eq_ok_iff, throw, throwThe, MonadExceptOf.throw] at h
  · split at h <;> cases h

theorem resolveConstraint_puts {owner : String} {k : Constraint}
    (h : resolveConstraint owner f k = .ok r) :
    r.Enforces f k ∧ k.Tests r.test ∧ r.test.Says f.name r.message ∧
      r.test.Spells f.name r.expression := by
  cases k with
  | nonNull => exact resolveNonNull_gives h
  | nonEmpty => exact resolveNonEmpty_gives h
  | range b => exact resolveRange_gives h
  | size min max => exact resolveSize_gives h
  | pattern regex => exact resolvePattern_gives h
  | foreign v => simp [resolveConstraint] at h

theorem resolveConstraint_makes {owner : String} {k : Constraint}
    (h : resolveConstraint owner f k = .ok r) :
    r.Enforces f k ∧ k.Tests r.test ∧ r.test.Says f.name r.message := by
  obtain ⟨henforces, htests, hsays, -⟩ := resolveConstraint_puts h
  exact ⟨henforces, htests, hsays⟩

theorem resolveConstraint_spells {owner : String} {k : Constraint}
    (h : resolveConstraint owner f k = .ok r) : r.test.Spells f.name r.expression :=
  (resolveConstraint_puts h).2.2.2

theorem resolveConstraint_gives {owner : String} {k : Constraint}
    (h : resolveConstraint owner f k = .ok r) : r.Enforces f k ∧ k.Tests r.test := by
  obtain ⟨henforces, htests, -⟩ := resolveConstraint_makes h
  exact ⟨henforces, htests⟩

theorem resolveConstraint_enforces {owner : String} {k : Constraint}
    (h : resolveConstraint owner f k = .ok r) : r.Enforces f k :=
  (resolveConstraint_gives h).1

theorem exists_constraint_of_mem {owner : String} {rules : List Rule}
    (h : resolveConstraints owner f = .ok rules) (hr : r ∈ rules) :
    ∃ k ∈ f.constraints, resolveConstraint owner f k = .ok r :=
  exists_of_forall₂_right ((mapM_eq_ok_iff ..).mp h) hr

end

namespace Rule

variable {r : Rule}

theorem check_eq_ok_iff (v : Value) : r.check v = .ok () ↔ r.holds v = .ok true := by
  unfold check
  split
  · simp_all
  · split <;> simp_all
  · simp_all

/-- Null passes, or it commits a violation: its literal has no digits to be counted. -/
theorem Enforces.check_null {f : FieldDescriptor} {k : Constraint} (h : r.Enforces f k) :
    r.check .null =
      if k.demandsPresence then .error (.violation (r.violation .null)) else .ok () := by
  unfold check
  rw [h.holds_null]
  cases k.demandsPresence <;> rfl

end Rule

end FluentBuilder
