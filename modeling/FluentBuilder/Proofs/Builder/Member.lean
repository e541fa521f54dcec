import FluentBuilder.Proofs.Builder.Work
import FluentBuilder.Proofs.Spec.Assembly

/-! The members of a derived builder: every setter is found by its name, no setter hides a method
that all builders have, and what calling each of them does. -/

namespace FluentBuilder

theorem setterName_ne {name : String} (h : name.toList.head? ≠ some 'w') (field : String) :
    setterName field ≠ name := by
  rintro rfl
  exact h (by simp [setterName, setterStem])

theorem materialize_eq_ok_iff (s : BuilderSpec) (handoff : Work Result) (t : BuilderType) :
    materialize s handoff = .ok t ↔
      (∀ f ∈ s.fields, isReserved f.name = false) ∧ t = { spec := s, handoff } := by
  unfold materialize
  split
  · rename_i f hf
    have hm := List.mem_of_find?_eq_some hf
    have hp := List.find?_some hf
    constructor
    · rintro ⟨⟩
    · rintro ⟨hall, -⟩
      rw [hall f hm] at hp
      cases hp
  · rename_i hf
    simp only [List.find?_eq_none, Bool.not_eq_true] at hf
    constructor
    · rintro ⟨rfl⟩
      exact ⟨hf, rfl⟩
    · rintro ⟨-, rfl⟩
      rfl

/-- A builder type can be made of the class, and it passes the check. -/
def ClassDescriptor.yields (c : ClassDescriptor) (handoff : Work Result)
    (check : BuilderType → Bool) : Bool :=
  match assemble c with
  | .error _ => false
  | .ok s =>
    match materialize s handoff with
    | .error _ => false
    | .ok t => check t

theorem ClassDescriptor.exists_of_yields {c : ClassDescriptor} {handoff : Work Result}
    {check : BuilderType → Bool} (h : c.yields handoff check = true) :
    ∃ s t, assemble c = .ok s ∧ materialize s handoff = .ok t ∧ check t = true := by
  unfold yields at h
  split at h
  · cases h
  · rename_i s hs
    split at h
    · cases h
    · rename_i t ht
      exact ⟨s, t, hs, ht, h⟩

def FieldDescriptor.isArray (f : FieldDescriptor) : Bool := f.type.any (·.kind == .array)

/-- The value that a setter makes of its arguments, if their number fits. -/
def FieldDescriptor.argument? (f : FieldDescriptor) (arguments : List Value) : Option Value :=
  if f.isArray then some (.list arguments)
  else match arguments with
    | [v] => some v
    | _ => none

variable {c : ClassDescriptor} {fields : List ResolvedField} {t : BuilderType}

namespace Resolution

theorem find?_setter (h : Resolution c fields) {r : ResolvedField} (hr : r ∈ fields) :
    (specOf c fields).setters.find? (·.name == setterName r.name) =
      some (r.setter c.builderReference) := by
  have hd : (((specOf c fields).setters).map (·.name)).Nodup := by
    have he : ((specOf c fields).setters).map (·.name) = fields.map fun r => setterName r.name := by
      simp [specOf, ResolvedField.setter]
    exact he ▸ h.setterNames_nodup
  exact find?_eq_some_of_nodup hd (List.mem_map_of_mem hr)

theorem attribute?_setter (h : Resolution c fields) {r : ResolvedField} (hr : r ∈ fields)
    (b : Builder) :
    (specOf c fields).attribute? b (setterName r.name) =
      some (.setter (r.setter c.builderReference)) := by
  unfold BuilderSpec.attribute?
  rw [h.find?_setter hr]

theorem name_of_attribute?_setter {b : Builder} {name : String} {m : Method}
    (hm : (specOf c fields).attribute? b name = some (.setter m)) :
    ∃ r ∈ fields, m = r.setter c.builderReference ∧ name = setterName r.name := by
  unfold BuilderSpec.attribute? at hm
  split at hm
  · rename_i m' hf
    obtain rfl : m' = m := by simpa using hm
    obtain ⟨r, hr, rfl⟩ := List.mem_map.mp (List.mem_of_find?_eq_some hf)
    have hn := List.find?_some hf
    exact ⟨r, hr, rfl, (beq_iff_eq.mp hn).symm⟩
  · unfold BuilderSpec.commonAttribute? at hm
    split_ifs at hm <;> simp at hm

theorem name_of_attribute?_build {b : Builder} {name : String}
    (hb : (specOf c fields).attribute? b name = some .build) : name = buildName := by
  unfold BuilderSpec.attribute? at hb
  split at hb
  · simp at hb
  · unfold BuilderSpec.commonAttribute? at hb
    split_ifs at hb <;> simp_all

theorem find?_setters_eq_none {name : String} (hw : name.toList.head? ≠ some 'w') :
    (specOf c fields).setters.find? (·.name == name) = none := by
  rw [List.find?_eq_none]
  intro m hm
  obtain ⟨r, -, rfl⟩ := List.mem_map.mp hm
  simpa [ResolvedField.setter] using setterName_ne hw r.name

theorem attribute?_common {name : String} (hw : name.toList.head? ≠ some 'w') {b : Builder}
    {a : Attribute} (ha : (specOf c fields).commonAttribute? b name = some a) :
    (specOf c fields).attribute? b name = some a := by
  unfold BuilderSpec.attribute?
  rw [find?_setters_eq_none hw, ha]
  rfl

theorem attribute?_build (b : Builder) :
    (specOf c fields).attribute? b buildName = some .build := by
  refine attribute?_common (by decide) ?_
  simp [BuilderSpec.commonAttribute?, specName, createName, valuesName, validateName, buildName]

theorem attribute?_validate (b : Builder) :
    (specOf c fields).attribute? b validateName = some .validate := by
  refine attribute?_common (by decide) ?_
  simp [BuilderSpec.commonAttribute?, specName, createName, valuesName, validateName]

theorem attribute?_create (b : Builder) :
    (specOf c fields).attribute? b createName = some .create := by
  refine attribute?_common (by decide) ?_
  simp [BuilderSpec.commonAttribute?, specName, createName]

theorem attribute?_values (b : Builder) :
    (specOf c fields).attribute? b valuesName = some .values := by
  refine attribute?_common (by decide) ?_
  simp [BuilderSpec.commonAttribute?, specName, createName, valuesName]

theorem attribute?_built (b : Builder) :
    (specOf c fields).attribute? b builtName = some (.value (.bool b.built)) := by
  refine attribute?_common (by decide) ?_
  simp [BuilderSpec.commonAttribute?, specName, createName, valuesName, validateName, buildName,
    builtName]

theorem attribute?_spec (b : Builder) :
    (specOf c fields).attribute? b specName = some (.description (specOf c fields)) := by
  refine attribute?_common (by decide) ?_
  simp [BuilderSpec.commonAttribute?]

theorem variadic_eq (h : Resolution c fields) {f : FieldDescriptor} {r : ResolvedField}
    (hr : r ∈ fields) (hf : resolveField c.name f = .ok r) : r.parameter.variadic = f.isArray := by
  obtain ⟨-, ht, -⟩ := (resolveField_eq_ok_iff ..).mp hf
  have he := h.element_ne_none r hr
  unfold ResolvedField.parameter FieldDescriptor.isArray
  rw [ht]
  cases hk : r.type.kind <;> cases hel : r.type.element <;> simp_all

theorem setterArgument_toOption (h : Resolution c fields) {f : FieldDescriptor}
    {r : ResolvedField} (hr : r ∈ fields) (hf : resolveField c.name f = .ok r) (s : BuilderSpec)
    (arguments : List Value) :
    (s.setterArgument (r.setter c.builderReference) arguments).toOption =
      f.argument? arguments := by
  have hv := h.variadic_eq hr hf
  unfold BuilderSpec.setterArgument FieldDescriptor.argument?
  rw [show (r.setter c.builderReference).parameters.any (·.variadic) = f.isArray by
    simpa [ResolvedField.setter] using hv]
  cases f.isArray with
  | true => rfl
  | false => rcases arguments with _ | ⟨v, _ | ⟨w, rest⟩⟩ <;> rfl

end Resolution

namespace BuilderType

variable (t : BuilderType) (b : Builder)

theorem call_on_of_none {name : String} (hn : t.spec.attribute? b name = none)
    (arguments : List Value) : (t.call name arguments).on b = (.error (.noAttribute name), b) := by
  unfold call
  rw [Work.on_bind_of_ok (Work.on_get b), hn]
  rfl

theorem call_on_of_some {name : String} {a : Attribute} (ha : t.spec.attribute? b name = some a)
    (arguments : List Value) :
    (t.call name arguments).on b = (t.callAttribute arguments a).on b := by
  unfold call
  rw [Work.on_bind_of_ok (Work.on_get b), ha]

end BuilderType

/-! A setter takes its arguments, refuses a builder that has built, and checks before it assigns. -/

section Setter

variable {t : BuilderType} {f : FieldDescriptor} {r : ResolvedField} {arguments : List Value}
  {v : Value} (h : Resolution c fields) (ht : t.spec = specOf c fields) (hr : r ∈ fields)
  (hf : resolveField c.name f = .ok r) (b : Builder)

include h ht hr hf

theorem call_setter_on :
    (t.call (setterName f.name) arguments).on b =
      (t.spec.callSetter (r.setter c.builderReference) arguments).on b := by
  obtain ⟨hn, -, -⟩ := (resolveField_eq_ok_iff ..).mp hf
  rw [hn, t.call_on_of_some b (ht ▸ h.attribute?_setter hr b)]
  rfl

theorem call_setter_of_misfit (ha : f.argument? arguments = none) :
    ∃ e, (t.call (setterName f.name) arguments).on b = (.error e, b) := by
  have harg := h.setterArgument_toOption hr hf t.spec arguments
  rw [call_setter_on h ht hr hf]
  unfold BuilderSpec.callSetter
  cases hs : t.spec.setterArgument (r.setter c.builderReference) arguments with
  | error e => exact ⟨e, rfl⟩
  | ok v => simp [hs, ha, Except.toOption] at harg

theorem call_setter_of_fit (ha : f.argument? arguments = some v) :
    (t.call (setterName f.name) arguments).on b =
      (t.spec.assign f.name v r.rules >>= fun _ => return .itself).on b := by
  have harg := h.setterArgument_toOption hr hf t.spec arguments
  obtain ⟨hn, -, -⟩ := (resolveField_eq_ok_iff ..).mp hf
  rw [call_setter_on h ht hr hf, hn]
  unfold BuilderSpec.callSetter
  cases hs : t.spec.setterArgument (r.setter c.builderReference) arguments with
  | error e => simp [hs, ha, Except.toOption] at harg
  | ok w =>
    obtain rfl : w = v := by simpa [hs, ha, Except.toOption] using harg
    rfl

theorem call_setter_of_built (ha : f.argument? arguments = some v) (hb : b.built = true) :
    (t.call (setterName f.name) arguments).on b = (.error (.consumed t.spec.qualifiedName), b) := by
  rw [call_setter_of_fit h ht hr hf b ha]
  exact Work.on_bind_of_error (t.spec.assign_on_of_built b _ _ _ hb) _

theorem call_setter_of_error (ha : f.argument? arguments = some v) (hb : b.built = false)
    {e : CheckError} (he : checkAll v r.rules = .error e) :
    (t.call (setterName f.name) arguments).on b = (.error e.callError, b) := by
  rw [call_setter_of_fit h ht hr hf b ha]
  exact Work.on_bind_of_error (t.spec.assign_on_of_error b _ hb he) _

theorem call_setter_of_ok (ha : f.argument? arguments = some v) (hb : b.built = false)
    (hv : checkAll v r.rules = .ok ()) :
    (t.call (setterName f.name) arguments).on b = (.ok .itself, b.set f.name v) := by
  rw [call_setter_of_fit h ht hr hf b ha]
  exact Work.on_bind_of_ok (t.spec.assign_on_of_ok b _ hb hv) _

/-- All that the call of a setter can do: it puts its value into its field, or it fails and leaves the
builder as it was. -/
theorem call_setter_cases :
    (∃ v, f.argument? arguments = some v ∧ b.built = false ∧ checkAll v r.rules = .ok () ∧
        (t.call (setterName f.name) arguments).on b = (.ok .itself, b.set f.name v)) ∨
      ¬ (b.built = false ∧ ∃ v, f.argument? arguments = some v ∧ checkAll v r.rules = .ok ()) ∧
        ∃ e, (t.call (setterName f.name) arguments).on b = (.error e, b) := by
  cases ha : f.argument? arguments with
  | none => exact .inr ⟨by simp, call_setter_of_misfit h ht hr hf b ha⟩
  | some v =>
    cases hb : b.built with
    | true => exact .inr ⟨by simp, _, call_setter_of_built h ht hr hf b ha hb⟩
    | false =>
      cases hv : checkAll v r.rules with
      | error e => exact .inr ⟨by simp [hv], _, call_setter_of_error h ht hr hf b ha hb hv⟩
      | ok u => exact .inl ⟨v, rfl, rfl, hv, call_setter_of_ok h ht hr hf b ha hb hv⟩

/-- A setter returns exactly on an open builder, for a value that passes all rules of its field. -/
theorem call_setter_ok_iff :
    (∃ x, ((t.call (setterName f.name) arguments).on b).1 = .ok x) ↔
      b.built = false ∧
        ∃ v, f.argument? arguments = some v ∧ ∀ q ∈ r.rules, q.holds v = .ok true := by
  simp only [← Rule.check_eq_ok_iff, ← forM_eq_ok_iff, ← checkAll_eq_forM]
  obtain ⟨v, ha, hb, hv, hcall⟩ | ⟨hn, e, hcall⟩ := call_setter_cases h ht hr hf b
  · exact ⟨fun _ => ⟨hb, v, ha, hv⟩, fun _ => ⟨_, congrArg Prod.fst hcall⟩⟩
  · constructor
    · rintro ⟨x, hx⟩
      rw [hcall] at hx
      cases hx
    · exact fun hok => absurd hok hn

theorem call_setter_on_of_error {e : CallError}
    (he : ((t.call (setterName f.name) arguments).on b).1 = .error e) :
    (t.call (setterName f.name) arguments).on b = (.error e, b) := by
  obtain ⟨v, -, -, -, hcall⟩ | ⟨-, e', hcall⟩ := call_setter_cases h ht hr hf b
  · rw [hcall] at he
    cases he
  · rw [hcall] at he ⊢
    cases he
    rfl

end Setter

end FluentBuilder
