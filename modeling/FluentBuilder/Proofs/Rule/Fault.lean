import FluentBuilder.Proofs.Rule.Bound

/-! Where resolving a constraint ends with a fault: at a bound beyond the floating-point range, at a
number too long to be written, and at a pattern that is no text or that cannot be taken. -/

namespace FluentBuilder

/-- The fault of a pattern that cannot be read, unless it is only malformed. -/
def patternFault? : Pattern.Refusal → Option Fault
  | .malformed _ => none
  | .hugeRepetition => some .repetitionTooLarge
  | .hugeCode => some .codeTooLarge
  | .longNumber digits => some (.longNumber (some digits))
  | .asciiAndUnicode => some .asciiAndUnicode
  | .asciiAndLocale => some .asciiAndLocale

/-- The fault of a value that is neither a text nor a byte string, given as a pattern. -/
def Value.notPattern (v : Value) : Fault :=
  match v.keyFault? with
  | some fault => .keyFault fault
  | none => .patternNotText

/-- The value is no pattern that can be read and written, and the reader does not find it malformed
either. -/
inductive Value.PatternFault : Value → Fault → Prop
  | text {s : String} {x : Pattern.Refusal} {e : Fault} : Pattern.compile s.toList true = .error x →
      patternFault? x = some e → PatternFault (.text s) e
  | bytes {b : List UInt8} {x : Pattern.Refusal} {e : Fault} :
      Pattern.compile (b.map fun byte => Char.ofNat byte.toNat) false = .error x →
      patternFault? x = some e → PatternFault (.bytes b) e
  | unwritten {b : List UInt8} {compiled : Pattern.Compiled} :
      Pattern.compile (b.map fun byte => Char.ofNat byte.toNat) false = .ok compiled →
      PatternFault (.bytes b) .bytesInExpression
  | other {v : Value} : (∀ s, v ≠ .text s) → (∀ b, v ≠ .bytes b) → PatternFault v v.notPattern

theorem Value.patternFault_iff_of_other {v : Value} (hs : ∀ s, v ≠ .text s) (hb : ∀ b, v ≠ .bytes b)
    (e : Fault) : v.PatternFault e ↔ v.notPattern = e := by
  constructor
  · rintro (- | - | - | -)
    · exact absurd rfl (hs _)
    · exact absurd rfl (hb _)
    · exact absurd rfl (hb _)
    · rfl
  · rintro rfl
    exact .other hs hb

theorem compilePattern_eq_ok_iff (f : FieldDescriptor) (regex : Value) (pattern : List Char)
    (isText : Bool) (compiled : Pattern.Compiled) :
    compilePattern f regex pattern isText = .ok compiled ↔
      Pattern.compile pattern isText = .ok compiled := by
  unfold compilePattern
  rcases Pattern.compile pattern isText with x | compiled
  · cases x <;> simp [refuse]
  · simp

theorem compilePattern_eq_fault_iff (f : FieldDescriptor) (regex : Value) (pattern : List Char)
    (isText : Bool) (e : Fault) :
    compilePattern f regex pattern isText = .error (.fault e) ↔
      ∃ x, Pattern.compile pattern isText = .error x ∧ patternFault? x = some e := by
  unfold compilePattern
  rcases Pattern.compile pattern isText with x | compiled
  · cases x with
    | malformed error =>
      have hs : (ConstraintFlaw.malformedPattern regex (error.message pattern isText)).shown = [] :=
        rfl
      simp [refuse_eq_fault_iff, patternFault?, hs]
    | _ => simp [patternFault?]
  · simp

section

variable {f : FieldDescriptor} {t : TypeRef} (ht : f.type = some t)

include ht

theorem resolveNonNull_ne_fault (e : Fault) : resolveNonNull f ≠ .error (.fault e) := by
  unfold resolveNonNull
  rw [typeFor_bind ht, Ne, demand_bind_eq_fault_iff rfl]
  exact fun h => nomatch h.2

theorem resolveNonEmpty_ne_fault (e : Fault) : resolveNonEmpty f ≠ .error (.fault e) := by
  unfold resolveNonEmpty
  rw [typeFor_bind ht, Ne, demand_bind_eq_fault_iff rfl]
  exact fun h => nomatch h.2

theorem resolveRange_eq_fault_iff (b : RangeBounds) (e : Fault) :
    resolveRange f b = .error (.fault e) ↔ t.numeric = true ∧ b.isBounded = true ∧
      (b.min.BoundFault e ∨ b.min.IsBound ∧ (b.max.BoundFault e ∨ b.max.IsBound ∧
        (b.min.hasLongNumber = true ∨ b.max.hasLongNumber = true) ∧ e = .longNumber none)) := by
  unfold resolveRange
  rw [typeFor_bind ht, demand_bind_eq_fault_iff rfl, demand_bind_eq_fault_iff rfl,
    checkBound_bind_eq_fault_iff, checkBound_bind_eq_fault_iff, ← bind_assoc,
    bind_pure_eq_fault_iff, checkInterval_checkWritten_eq_fault_iff]

theorem resolveSize_eq_fault_iff (min max : Value) (e : Fault) :
    resolveSize f min max = .error (.fault e) ↔ t.sized = true ∧ e = .longNumber none ∧
      (¬ min.IsSizeBound ∧ min.hasLongNumber = true ∨
        min.IsSizeBound ∧ (¬ max.IsSizeBound ∧ max.hasLongNumber = true ∨
          max.IsSizeBound ∧ (min.hasLongNumber = true ∨ max.hasLongNumber = true))) := by
  unfold resolveSize
  rw [typeFor_bind ht]
  dsimp only
  rw [demand_bind_eq_fault_iff rfl]
  simp only [sizeBound?_bind_eq_fault_iff, sizeOrder_eq_fault_iff]
  refine and_congr_right fun _ => ⟨?_, ?_⟩
  · rintro (⟨hmin, hl, he⟩ | ⟨low, hmin, ⟨hmax, hl, he⟩ | ⟨high, hmax, hl, he⟩⟩)
    · exact ⟨he, .inl ⟨hmin, hl⟩⟩
    · exact ⟨he, .inr ⟨⟨low, hmin⟩, .inl ⟨hmax, hl⟩⟩⟩
    · exact ⟨he, .inr ⟨⟨low, hmin⟩, .inr ⟨⟨high, hmax⟩, hmin ▸ hmax ▸ hl⟩⟩⟩
  · rintro ⟨he, ⟨hmin, hl⟩ | ⟨⟨low, hmin⟩, ⟨hmax, hl⟩ | ⟨⟨high, hmax⟩, hl⟩⟩⟩
    · exact .inl ⟨hmin, hl, he⟩
    · exact .inr ⟨low, hmin, .inl ⟨hmax, hl, he⟩⟩
    · exact .inr ⟨low, hmin, .inr ⟨high, hmax, hmin ▸ hmax ▸ hl, he⟩⟩

theorem resolvePattern_eq_fault_iff (regex : Value) (e : Fault) :
    resolvePattern f regex = .error (.fault e) ↔ t.kind = .text ∧ regex.PatternFault e := by
  unfold resolvePattern
  rw [typeFor_bind ht, demand_bind_eq_fault_iff rfl, beq_iff_eq]
  refine and_congr_right fun _ => ?_
  split
  · rename_i s
    rw [bind_pure_eq_fault_iff, compilePattern_eq_fault_iff]
    constructor
    · rintro ⟨x, hx, he⟩
      exact .text hx he
    · rintro (⟨hx, he⟩ | - | - | ⟨hs, -⟩)
      · exact ⟨_, hx, he⟩
      · exact absurd rfl (hs s)
  · rename_i b
    rw [bind_eq_error_iff, compilePattern_eq_fault_iff]
    constructor
    · rintro (⟨x, hx, he⟩ | ⟨compiled, hc, ⟨⟩⟩)
      · exact .bytes hx he
      · exact .unwritten ((compilePattern_eq_ok_iff ..).mp hc)
    · rintro (- | ⟨hx, he⟩ | hc | ⟨-, hb⟩)
      · exact .inl ⟨_, hx, he⟩
      · exact .inr ⟨_, (compilePattern_eq_ok_iff ..).mpr hc, rfl⟩
      · exact absurd rfl (hb b)
  · rename_i hs hb
    rw [Value.patternFault_iff_of_other hs hb]
    unfold Value.notPattern
    cases regex.keyFault? <;> simp [throw, throwThe, MonadExceptOf.throw]

end

theorem RangeBounds.isBounded_iff (b : RangeBounds) :
    b.isBounded = true ↔ b.min ≠ .null ∨ b.max ≠ .null := by
  unfold isBounded
  split
  · rename_i hmin hmax
    simp [hmin, hmax]
  · rename_i h
    simp only [true_iff]
    by_contra hn
    rw [not_or, not_not, not_not] at hn
    exact h hn.1 hn.2

/-- Resolving the constraint on a field of the type ends with a fault. -/
inductive Constraint.Escapes (t : TypeRef) : Constraint → Fault → Prop
  | minimum {b : RangeBounds} {e : Fault} : t.numeric = true → b.min.BoundFault e →
      Escapes t (.range b) e
  | maximum {b : RangeBounds} {e : Fault} : t.numeric = true → b.min.IsBound →
      b.max.BoundFault e → Escapes t (.range b) e
  | interval {b : RangeBounds} : t.numeric = true → b.min.IsBound → b.max.IsBound →
      b.min.hasLongNumber = true ∨ b.max.hasLongNumber = true →
      Escapes t (.range b) (.longNumber none)
  | leastSize {min max : Value} : t.sized = true → ¬ min.IsSizeBound →
      min.hasLongNumber = true → Escapes t (.size min max) (.longNumber none)
  | greatestSize {min max : Value} : t.sized = true → min.IsSizeBound → ¬ max.IsSizeBound →
      max.hasLongNumber = true → Escapes t (.size min max) (.longNumber none)
  | sizes {min max : Value} : t.sized = true → min.IsSizeBound → max.IsSizeBound →
      min.hasLongNumber = true ∨ max.hasLongNumber = true →
      Escapes t (.size min max) (.longNumber none)
  | pattern {regex : Value} {e : Fault} : t.kind = .text → regex.PatternFault e →
      Escapes t (.pattern regex) e
  | foreign {v : Value} : v.hasLongNumber = true → Escapes t (.foreign v) (.longNumber none)

theorem Value.ne_null_of_hasLongNumber {v : Value} (h : v.hasLongNumber = true) : v ≠ .null := by
  rintro rfl
  cases h

theorem Value.BoundFault.ne_null {v : Value} {e : Fault} (h : v.BoundFault e) : v ≠ .null := by
  rcases h with (_ | _) | ⟨hn, -, -⟩
  · exact nofun
  · exact nofun
  · exact hn

theorem resolveRange_eq_fault_iff_escapes {f : FieldDescriptor} {t : TypeRef} (ht : f.type = some t)
    (b : RangeBounds) (e : Fault) :
    resolveRange f b = .error (.fault e) ↔ (Constraint.range b).Escapes t e := by
  rw [resolveRange_eq_fault_iff ht, b.isBounded_iff]
  constructor
  · rintro ⟨hn, -, hmin | ⟨hmin, hmax | ⟨hmax, hl, rfl⟩⟩⟩
    · exact .minimum hn hmin
    · exact .maximum hn hmin hmax
    · exact .interval hn hmin hmax hl
  · intro h
    cases h with
    | minimum hn hmin => exact ⟨hn, .inl hmin.ne_null, .inl hmin⟩
    | maximum hn hmin hmax => exact ⟨hn, .inr hmax.ne_null, .inr ⟨hmin, .inl hmax⟩⟩
    | interval hn hmin hmax hl =>
      have hne := hl.imp Value.ne_null_of_hasLongNumber Value.ne_null_of_hasLongNumber
      exact ⟨hn, hne, .inr ⟨hmin, .inr ⟨hmax, hl, rfl⟩⟩⟩

theorem resolveSize_eq_fault_iff_escapes {f : FieldDescriptor} {t : TypeRef} (ht : f.type = some t)
    (min max : Value) (e : Fault) :
    resolveSize f min max = .error (.fault e) ↔ (Constraint.size min max).Escapes t e := by
  rw [resolveSize_eq_fault_iff ht]
  constructor
  · rintro ⟨hs, rfl, ⟨hmin, hl⟩ | ⟨hmin, ⟨hmax, hl⟩ | ⟨hmax, hl⟩⟩⟩
    · exact .leastSize hs hmin hl
    · exact .greatestSize hs hmin hmax hl
    · exact .sizes hs hmin hmax hl
  · intro h
    cases h with
    | leastSize hs hmin hl => exact ⟨hs, rfl, .inl ⟨hmin, hl⟩⟩
    | greatestSize hs hmin hmax hl => exact ⟨hs, rfl, .inr ⟨hmin, .inl ⟨hmax, hl⟩⟩⟩
    | sizes hs hmin hmax hl => exact ⟨hs, rfl, .inr ⟨hmin, .inr ⟨hmax, hl⟩⟩⟩

theorem resolveConstraint_eq_fault_iff (owner : String) {f : FieldDescriptor} {t : TypeRef}
    (ht : f.type = some t) (k : Constraint) (e : Fault) :
    resolveConstraint owner f k = .error (.fault e) ↔ k.Escapes t e := by
  cases k with
  | nonNull => exact ⟨fun h => absurd h (resolveNonNull_ne_fault ht e), nofun⟩
  | nonEmpty => exact ⟨fun h => absurd h (resolveNonEmpty_ne_fault ht e), nofun⟩
  | range b => exact resolveRange_eq_fault_iff_escapes ht b e
  | size min max => exact resolveSize_eq_fault_iff_escapes ht min max e
  | pattern regex =>
    refine (resolvePattern_eq_fault_iff ht regex e).trans ⟨fun h => .pattern h.1 h.2, ?_⟩
    intro h
    cases h with
    | pattern hk hp => exact ⟨hk, hp⟩
  | foreign v =>
    have hrefused : resolveConstraint owner f (.foreign v) = .error (.fault e) ↔
        v.hasLongNumber = true ∧ e = .longNumber none := by
      unfold resolveConstraint GenerationError.failure
      simp only [GenerationError.shown, ClassError.shown, List.any_cons, List.any_nil,
        Bool.or_false, Except.error.injEq]
      split_ifs with h
      · simp [h, eq_comm]
      · simp [h]
    rw [hrefused]
    constructor
    · rintro ⟨hl, rfl⟩
      exact .foreign hl
    · intro h
      cases h with
      | foreign hl => exact ⟨hl, rfl⟩

end FluentBuilder
