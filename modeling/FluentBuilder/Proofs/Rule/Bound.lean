import FluentBuilder.Proofs.Number.Overflow
import FluentBuilder.Proofs.Traversal
import FluentBuilder.Rule.Resolve

/-! The bounds of ranges and sizes: which values can be bounds, and where looking at one or writing
it ends with a fault. -/

namespace FluentBuilder

open Number

theorem isLong_zero : isLong 0 = false := by
  unfold isLong
  generalize digitLimit = digits
  simp

/-- A whole number or a fraction beyond the floating-point range. -/
inductive Value.Overflows : Value → Fault → Prop
  | int {n : Int} : Binary64.overflowLimit ≤ n.natAbs → Overflows (.int n) .integerTooLarge
  | fraction {q : Rat} : Binary64.overflowLimit * q.den ≤ q.num.natAbs →
      Overflows (.fraction q) .quotientTooLarge

namespace Value

private theorem proper_ofRatio (negative : Bool) (num : ℕ) {den : ℕ} (hd : den ≠ 0) (e : Fault) :
    (match Binary64.ofRatio negative num den with
      | .infinite _ => .error e
      | _ => .ok true : Except Fault Bool) =
      if Binary64.overflowLimit * den ≤ num then .error e else .ok true := by
  have h (sign : Bool) : Binary64.ofRatio negative num den = .infinite sign ↔
      negative = sign ∧ Binary64.overflowLimit * den ≤ num :=
    Binary64.ofRatio_eq_infinite_iff hd negative sign
  by_cases hl : Binary64.overflowLimit * den ≤ num
  · rw [(h _).mpr ⟨rfl, hl⟩, if_pos hl]
  · rw [if_neg hl]
    split
    · rename_i sign hi
      exact absurd ((h sign).mp hi).2 hl
    · rfl

theorem isProperNumber_int (n : Int) :
    (int n).isProperNumber =
      if Binary64.overflowLimit ≤ n.natAbs then .error .integerTooLarge else .ok true := by
  have h := proper_ofRatio (n < 0) n.natAbs one_ne_zero .integerTooLarge
  rw [mul_one] at h
  exact h

theorem isProperNumber_fraction (q : Rat) :
    (fraction q).isProperNumber =
      if Binary64.overflowLimit * q.den ≤ q.num.natAbs then .error .quotientTooLarge
      else .ok true :=
  proper_ofRatio (q.num < 0) q.num.natAbs q.den_nz .quotientTooLarge

/-- Only such a number cannot be asked whether it is one. -/
theorem isProperNumber_eq_error_iff (v : Value) (e : Fault) :
    v.isProperNumber = .error e ↔ v.Overflows e := by
  constructor
  · intro h
    cases v with
    | int n =>
      rw [isProperNumber_int] at h
      split at h
      · rename_i hl
        obtain rfl := Except.error.inj h
        exact .int hl
      · cases h
    | fraction q =>
      rw [isProperNumber_fraction] at h
      split at h
      · rename_i hl
        obtain rfl := Except.error.inj h
        exact .fraction hl
      · cases h
    | _ => cases h
  · rintro (hl | hl)
    · rw [isProperNumber_int, if_pos hl]
    · rw [isProperNumber_fraction, if_pos hl]

def IsBound (v : Value) : Prop := v = .null ∨ v.isProperNumber = .ok true

/-- The value cannot be asked whether it can be a bound, or the refusal of it cannot be written. -/
inductive BoundFault (v : Value) : Fault → Prop
  | overflow {e : Fault} : v.Overflows e → BoundFault v e
  | unwritten : v ≠ .null → v.isProperNumber = .ok false → v.hasLongNumber = true →
      BoundFault v (.longNumber none)

theorem boundFault_iff (v : Value) (e : Fault) :
    v.BoundFault e ↔ v.isProperNumber = .error e ∨
      v ≠ .null ∧ v.isProperNumber = .ok false ∧ v.hasLongNumber = true ∧ e = .longNumber none := by
  rw [isProperNumber_eq_error_iff]
  constructor
  · rintro (h | ⟨hn, hp, hl⟩)
    · exact .inl h
    · exact .inr ⟨hn, hp, hl, rfl⟩
  · rintro (h | ⟨hn, hp, hl, rfl⟩)
    · exact .overflow h
    · exact .unwritten hn hp hl

/-- A bound of a size as it is given. -/
def ofSize : Option ℕ → Value
  | none => .null
  | some n => .int n

def IsSizeBound (v : Value) : Prop := ∃ n, v = ofSize n

theorem ofSize_injective : Function.Injective ofSize := by
  intro a b h
  cases a <;> cases b <;> simp_all [ofSize]

theorem hasLongNumber_ofSize (n : Option ℕ) :
    (int (n.getD 0)).hasLongNumber = (ofSize n).hasLongNumber := by
  cases n with
  | none => simp only [Option.getD_none, Nat.cast_zero, ofSize, hasLongNumber, isLong_zero]
  | some n => rfl

end Value

theorem refuse_eq_fault_iff {α : Type} (f : FieldDescriptor) (k : Constraint)
    (flaw : ConstraintFlaw) (e : Fault) :
    (refuse f k flaw : Except Failure α) = .error (.fault e) ↔
      flaw.shown.any (·.hasLongNumber) = true ∧ e = .longNumber none := by
  unfold refuse GenerationError.failure
  simp only [GenerationError.shown, Except.error.injEq]
  split_ifs with h
  · simp [h, eq_comm]
  · simp [h]

theorem refuse_bind {α β : Type} (f : FieldDescriptor) (k : Constraint) (flaw : ConstraintFlaw)
    (next : α → Except Failure β) :
    (refuse f k flaw >>= next) = (refuse f k flaw : Except Failure β) := rfl

theorem checkWritten_eq_fault_iff (values : List Value) (e : Fault) :
    checkWritten values = .error (.fault e) ↔
      values.any (·.hasLongNumber) = true ∧ e = .longNumber none := by
  unfold checkWritten
  split_ifs with h
  · constructor
    · rintro ⟨⟩
      exact ⟨h, rfl⟩
    · rintro ⟨-, rfl⟩
      rfl
  · simp [h]

/-- A demand is refused in words that can be written, so that a fault comes from what follows. -/
theorem demand_bind_eq_fault_iff {α : Type} {f : FieldDescriptor} {k : Constraint} {holds : Bool}
    {flaw : ConstraintFlaw} (hs : flaw.shown = []) (next : Unit → Except Failure α) (e : Fault) :
    demand f k holds flaw >>= next = .error (.fault e) ↔
      holds = true ∧ next () = .error (.fault e) := by
  unfold demand
  cases holds with
  | true => simp [bind, Except.bind]
  | false =>
    rw [if_neg Bool.false_ne_true, refuse_bind, refuse_eq_fault_iff, hs]
    simp

theorem typeFor_bind {α : Type} {f : FieldDescriptor} {t : TypeRef} (ht : f.type = some t)
    (asked : String) (next : TypeRef → Except Failure α) : f.typeFor asked >>= next = next t := by
  unfold FieldDescriptor.typeFor
  rw [ht]
  rfl

theorem checkBound_eq_ok_iff (f : FieldDescriptor) (k : Constraint) (v : Value) :
    checkBound f k v = .ok () ↔ v.IsBound := by
  unfold checkBound Value.IsBound
  split
  · simp
  · rename_i hn
    have hne : v ≠ .null := hn
    split
    · rename_i hp
      simp [hp, hne]
    · rename_i hp
      simp [hp]
    · rename_i hp
      simp [hp, hne, refuse]

theorem checkBound_eq_fault_iff (f : FieldDescriptor) (k : Constraint) (v : Value) (e : Fault) :
    checkBound f k v = .error (.fault e) ↔ v.BoundFault e := by
  rw [v.boundFault_iff]
  unfold checkBound
  split
  · simp [Value.isProperNumber]
  · rename_i hn
    have hne : v ≠ .null := hn
    split
    · rename_i hp
      simp [hp]
    · rename_i hp
      simp [hp]
    · rename_i hp
      simp [hp, hne, refuse_eq_fault_iff, ConstraintFlaw.shown]

theorem checkBound_bind_eq_fault_iff {α : Type} (f : FieldDescriptor) (k : Constraint) (v : Value)
    (next : Unit → Except Failure α) (e : Fault) :
    checkBound f k v >>= next = .error (.fault e) ↔
      v.BoundFault e ∨ v.IsBound ∧ next () = .error (.fault e) := by
  rw [bind_eq_error_iff, checkBound_eq_fault_iff]
  refine or_congr_right ⟨?_, ?_⟩
  · rintro ⟨⟨⟩, hok, hnext⟩
    exact ⟨(checkBound_eq_ok_iff ..).mp hok, hnext⟩
  · rintro ⟨hbound, hnext⟩
    exact ⟨(), (checkBound_eq_ok_iff f k v).mpr hbound, hnext⟩

theorem bind_pure_eq_fault_iff {α β : Type} (x : Except Failure α) (g : α → β) (e : Fault) :
    (x >>= fun a => pure (g a)) = .error (.fault e) ↔ x = .error (.fault e) := by
  cases x <;> simp [bind, Except.bind, pure, Except.pure]

/-- Two bounds are written in the rule or in the refusal, whichever it is. -/
theorem checkInterval_checkWritten_eq_fault_iff (f : FieldDescriptor) (b : RangeBounds)
    (e : Fault) :
    (checkInterval f b >>= fun _ => checkWritten [b.min, b.max]) = .error (.fault e) ↔
      (b.min.hasLongNumber = true ∨ b.max.hasLongNumber = true) ∧ e = .longNumber none := by
  have hwritten : checkWritten [b.min, b.max] = .error (.fault e) ↔
      (b.min.hasLongNumber = true ∨ b.max.hasLongNumber = true) ∧ e = .longNumber none := by
    rw [checkWritten_eq_fault_iff]
    simp
  have hrefused (flaw : ConstraintFlaw) (hs : flaw.shown = [b.min, b.max]) :
      ((refuse f (.range b) flaw : Except Failure Unit) >>= fun _ =>
          checkWritten [b.min, b.max]) = .error (.fault e) ↔
        (b.min.hasLongNumber = true ∨ b.max.hasLongNumber = true) ∧ e = .longNumber none := by
    rw [refuse_bind, refuse_eq_fault_iff, hs]
    simp
  unfold checkInterval
  split
  · exact hwritten
  · exact hwritten
  · split_ifs
    · exact hrefused _ rfl
    · exact hrefused _ rfl
    · exact hwritten

theorem sizeBound?_ofSize (f : FieldDescriptor) (k : Constraint) (n : Option ℕ) :
    sizeBound? f k (.ofSize n) = .ok n := by
  cases n with
  | none => rfl
  | some n =>
    have hn : ¬ (n : ℤ) < 0 := by omega
    simp [sizeBound?, sizeBound, Value.ofSize, hn]

theorem sizeBound?_eq_refuse (f : FieldDescriptor) (k : Constraint) {v : Value}
    (hv : ¬ v.IsSizeBound) :
    ∃ flaw : ConstraintFlaw, flaw.shown = [v] ∧ sizeBound? f k v = refuse f k flaw := by
  cases v with
  | null => exact absurd ⟨none, rfl⟩ hv
  | int n =>
    by_cases hn : n < 0
    · refine ⟨.sizeNegative n, rfl, ?_⟩
      unfold sizeBound? sizeBound
      dsimp only
      rw [if_pos hn]
      rfl
    · obtain ⟨m, rfl⟩ := Int.eq_ofNat_of_zero_le (show 0 ≤ n by omega)
      exact absurd ⟨some m, rfl⟩ hv
  | _ => exact ⟨.sizeNotInteger _, rfl, rfl⟩

theorem sizeBound?_eq_ok_iff (f : FieldDescriptor) (k : Constraint) (v : Value) (n : Option ℕ) :
    sizeBound? f k v = .ok n ↔ v = .ofSize n := by
  by_cases hv : v.IsSizeBound
  · obtain ⟨m, rfl⟩ := hv
    rw [sizeBound?_ofSize, Except.ok.injEq]
    exact ⟨fun h => h ▸ rfl, fun h => Value.ofSize_injective h⟩
  · obtain ⟨flaw, -, hf⟩ := sizeBound?_eq_refuse f k hv
    rw [hf]
    exact ⟨nofun, fun h => absurd ⟨n, h⟩ hv⟩

theorem sizeBound?_eq_fault_iff (f : FieldDescriptor) (k : Constraint) (v : Value) (e : Fault) :
    sizeBound? f k v = .error (.fault e) ↔
      ¬ v.IsSizeBound ∧ v.hasLongNumber = true ∧ e = .longNumber none := by
  by_cases hv : v.IsSizeBound
  · obtain ⟨n, rfl⟩ := hv
    rw [sizeBound?_ofSize]
    exact ⟨nofun, fun h => absurd ⟨n, rfl⟩ h.1⟩
  · obtain ⟨flaw, hs, hf⟩ := sizeBound?_eq_refuse f k hv
    rw [hf, refuse_eq_fault_iff, hs]
    simp [hv]

theorem sizeBound?_bind_eq_fault_iff {α : Type} (f : FieldDescriptor) (k : Constraint) (v : Value)
    (next : Option ℕ → Except Failure α) (e : Fault) :
    sizeBound? f k v >>= next = .error (.fault e) ↔
      (¬ v.IsSizeBound ∧ v.hasLongNumber = true ∧ e = .longNumber none) ∨
        ∃ n, v = .ofSize n ∧ next n = .error (.fault e) := by
  rw [bind_eq_error_iff, sizeBound?_eq_fault_iff]
  simp only [sizeBound?_eq_ok_iff]

theorem sizeOrder_eq_fault_iff (f : FieldDescriptor) (k : Constraint) (holds : Bool)
    (low high : Option ℕ) (g : Unit → Rule) (e : Fault) :
    (demand f k holds (.minSizeAboveMax (low.getD 0) (high.getD 0)) >>= fun _ =>
      checkWritten [.int (low.getD 0), .int (high.getD 0)] >>= fun u => pure (g u)) =
        .error (.fault e) ↔
      ((Value.ofSize low).hasLongNumber = true ∨ (Value.ofSize high).hasLongNumber = true) ∧
        e = .longNumber none := by
  have hany : [Value.int (low.getD 0), .int (high.getD 0)].any (·.hasLongNumber) = true ↔
      (Value.ofSize low).hasLongNumber = true ∨ (Value.ofSize high).hasLongNumber = true := by
    simp [Value.hasLongNumber_ofSize]
  rw [← bind_assoc, bind_pure_eq_fault_iff, ← hany]
  unfold demand
  cases holds with
  | true =>
    have hok : (Except.ok () : Except Failure Unit) = pure () := rfl
    rw [if_pos rfl, hok, pure_bind, checkWritten_eq_fault_iff]
  | false => rw [if_neg Bool.false_ne_true, refuse_bind, refuse_eq_fault_iff, ConstraintFlaw.shown]

end FluentBuilder
