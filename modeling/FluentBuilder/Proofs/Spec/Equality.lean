import FluentBuilder.Proofs.Rule.Interval
import FluentBuilder.Proofs.Spec.Assembly

/-! A derived builder equals itself. That is not clear from the start, since a NaN equals nothing, but
none gets into a rule. -/

namespace FluentBuilder

namespace Value

variable {v : Value}

theorem equal_self_of_toEReal {x : EReal} (h : v.toEReal? = some x) : v.equal v = true := by
  have hself := (equalNumbers_iff h h).mpr rfl
  cases v with
  | int _ | float _ | decimal _ | fraction _ => simpa [equal] using hself
  | _ => cases h

theorem IsBound.equal_self (h : v.IsBound) : v.equal v = true := by
  by_cases hn : v = .null
  · rw [hn, equal]
  · obtain ⟨x, hx⟩ := h.exists_toEReal hn
    exact equal_self_of_toEReal hx

theorem equal_self_ofSize (n : Option ℕ) : (ofSize n).equal (ofSize n) = true := by
  cases n with
  | none => rw [ofSize, equal]
  | some n => exact equal_self_of_toEReal rfl

end Value

theorem resolveConstraint_equal_self {owner : String} {f : FieldDescriptor} {k : Constraint}
    {r : Rule} (h : resolveConstraint owner f k = .ok r) : r.equal r = true := by
  obtain ⟨henforces, htests⟩ := resolveConstraint_gives h
  have hk : k.equal k = true := by
    cases k with
    | nonNull | nonEmpty => rfl
    | range b =>
      obtain ⟨hmin, hmax⟩ := resolveRange_isBound h
      simp [Constraint.equal, hmin.equal_self, hmax.equal_self]
    | size min max =>
      generalize r.test = test at htests
      cases htests
      simp [Constraint.equal, Value.equal_self_ofSize]
    | pattern regex =>
      generalize r.test = test at htests
      cases htests
      simp [Constraint.equal, Value.equal]
    | foreign v => cases h
  simp [Rule.equal, henforces.constraint, hk]

theorem equalRules_self {rules : List Rule} (h : ∀ r ∈ rules, r.equal r = true) :
    equalRules rules rules = true := by
  induction rules with
  | nil => rfl
  | cons r rules ih =>
    obtain ⟨hr, hrest⟩ := List.forall_mem_cons.mp h
    rw [equalRules, hr, ih hrest]
    rfl

theorem Method.equal_self {m : Method} (h : ∀ r ∈ m.rules, r.equal r = true) :
    m.equal m = true := by
  simp [equal, equalRules_self h]

theorem equalMethods_self {methods : List Method} (h : ∀ m ∈ methods, m.equal m = true) :
    equalMethods methods methods = true := by
  induction methods with
  | nil => rfl
  | cons m methods ih =>
    obtain ⟨hm, hrest⟩ := List.forall_mem_cons.mp h
    rw [equalMethods, hm, ih hrest]
    rfl

theorem Resolution.equal_self {c : ClassDescriptor} {fields : List ResolvedField}
    (h : Resolution c fields) : (specOf c fields).equal (specOf c fields) = true := by
  have hrules : ∀ f ∈ fields, ∀ r ∈ f.rules, r.equal r = true := by
    intro f hf r hr
    obtain ⟨_, -, -, _, -, hk⟩ := h.exists_constraint hf hr
    exact resolveConstraint_equal_self hk
  have hmethods : ∀ m ∈ (specOf c fields).methods, m.equal m = true := by
    intro m hm
    apply Method.equal_self
    simp only [BuilderSpec.methods, specOf, List.mem_cons, List.mem_append, List.mem_map,
      List.not_mem_nil, or_false] at hm
    rcases hm with rfl | rfl | ⟨f, hf, rfl⟩ | rfl | rfl
    · exact nofun
    · exact nofun
    · exact hrules f hf
    · exact nofun
    · intro r hr
      obtain ⟨f, hf, hrf⟩ := List.mem_flatMap.mp hr
      exact hrules f hf r hrf
  simp [BuilderSpec.equal, equalMethods_self hmethods]

end FluentBuilder
