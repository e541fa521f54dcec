import FluentBuilder.Proofs.Builder.Run
import FluentBuilder.Proofs.Builder.Store

/-! What one event can do to a builder: a setter that returns puts its value into its field, a build
that returns closes the builder, and nothing else changes it. -/

namespace FluentBuilder

variable {c : ClassDescriptor} {fields : List ResolvedField} {t : BuilderType}

inductive Change (c : ClassDescriptor) : Builder → Event → Builder → Prop
  | assigned {b : Builder} {f : FieldDescriptor} {r : ResolvedField} {arguments : List Value}
      {v : Value} : f ∈ c.qualifyingFields → resolveField c.name f = .ok r →
      f.argument? arguments = some v → b.built = false → checkAll v r.rules = .ok () →
      Change c b ⟨.call (setterName f.name) arguments, .ok (.result .itself)⟩ (b.set f.name v)
  | built {b : Builder} (x : Result) :
      Change c b ⟨.call buildName [], .ok (.result x)⟩ { b with built := true }
  | quiet {b : Builder} {e : Event} : (∀ f ∈ c.qualifyingFields, e.accepted? f = none) →
      e.isBuild = false → Change c b e b

theorem Change.of_error (b : Builder) (a : Action) (e : CallError) :
    Change c b ⟨a, .error e⟩ b := by
  refine .quiet (fun f _ => ?_) ?_
  · cases a <;> rfl
  · cases a <;> rfl

theorem setterName_ne_buildName (field : String) : setterName field ≠ buildName :=
  setterName_ne (by decide) field

namespace BuilderType

theorem act_call_on (t : BuilderType) (name : String) (arguments : List Value) (b : Builder) :
    (t.act (.call name arguments)).on b =
      (((t.call name arguments).on b).1.map Shown.result, ((t.call name arguments).on b).2) := by
  unfold act
  rw [Work.on_bind]
  rcases (t.call name arguments).on b with ⟨_ | _, _⟩ <;> rfl

theorem after_call (t : BuilderType) (name : String) (arguments : List Value) (b : Builder) :
    t.after (.call name arguments) b = ((t.call name arguments).on b).2 := by
  unfold after
  rw [act_call_on]

/-- What is neither a setter nor `build` leaves the builder as it is. -/
theorem callAttribute_on_snd (t : BuilderType) (arguments : List Value) (b : Builder)
    {a : Attribute} (hs : ∀ m, a ≠ .setter m) (hb : a ≠ .build) :
    ((t.callAttribute arguments a).on b).2 = b := by
  have take (method : String) (k : Unit → Work Result) (hk : ((k ()).on b).2 = b) :
      ((liftM (takeNone method arguments) >>= k).on b).2 = b := by
    rw [Work.on_bind, Work.on_liftM]
    cases takeNone method arguments with
    | error e => rfl
    | ok u => exact hk
  cases a with
  | setter m => exact absurd rfl (hs m)
  | build => exact absurd rfl hb
  | value v => rfl
  | description s => rfl
  | create => exact take _ _ rfl
  | values => exact take _ _ rfl
  | validate =>
    refine take _ _ ?_
    rw [Work.on_bind, BuilderSpec.validateAll_on]
    cases b.validate t.spec.validate.rules <;> rfl
  | ensureOpen =>
    refine take _ _ ?_
    rw [Work.on_bind, BuilderSpec.ensureOpen_on]
    cases b.built <;> rfl

theorem after_read (t : BuilderType) (name : String) (b : Builder) :
    t.after (.read name) b = b := by
  unfold after act
  rw [Work.on_bind, BuilderSpec.read_on]
  cases t.spec.attribute? b name <;> rfl

theorem build_on_of_built (t : BuilderType) {b : Builder} (hb : b.built = true) :
    t.build.on b = (.error (.consumed t.spec.qualifiedName), b) := by
  unfold build
  exact Work.on_bind_of_error (by rw [BuilderSpec.ensureOpen_on, hb]; rfl) _

theorem build_on_of_error (t : BuilderType) {b : Builder} (hb : b.built = false) {e : CheckError}
    (he : b.validate t.spec.validate.rules = .error e) :
    t.build.on b = (.error e.callError, b) := by
  unfold build
  rw [Work.on_bind_of_ok (by rw [BuilderSpec.ensureOpen_on, hb]; rfl)]
  exact Work.on_bind_of_error (by rw [BuilderSpec.validateAll_on, he]; rfl) _

/-- An open builder that keeps all rules is built by its handoff, and closed if that returns. -/
theorem build_on_of_ok (t : BuilderType) {b : Builder} (hb : b.built = false)
    (hv : b.validate t.spec.validate.rules = .ok ()) :
    t.build.on b =
      match t.handoff.on b with
      | (.ok x, after) => (.ok x, { after with built := true })
      | (.error e, after) => (.error e, after) := by
  unfold build
  rw [Work.on_bind_of_ok (by rw [BuilderSpec.ensureOpen_on, hb]; rfl),
    Work.on_bind_of_ok (by rw [BuilderSpec.validateAll_on, hv]; rfl), Work.on_bind]
  rcases t.handoff.on b with ⟨_ | _, _⟩ <;> rfl

/-- An action that does not ask the handoff, though it is a call of `build`, fails. -/
theorem callAttribute_build_on_of_not_asks (t : BuilderType) {b : Builder} {arguments : List Value}
    (hn : ¬ t.Asks b (.call buildName arguments)) :
    ∃ e, (t.callAttribute arguments .build).on b = (.error e, b) := by
  cases arguments with
  | cons v rest => exact ⟨_, rfl⟩
  | nil =>
    have hc : (t.callAttribute [] .build).on b = t.build.on b := rfl
    rw [hc]
    cases hb : b.built with
    | true => exact ⟨_, t.build_on_of_built hb⟩
    | false =>
      cases hv : b.validate t.spec.validate.rules with
      | error e => exact ⟨_, t.build_on_of_error hb hv⟩
      | ok u => exact absurd ⟨rfl, hb, hv⟩ hn

end BuilderType

namespace Resolution

variable (h : Resolution c fields) (ht : t.spec = specOf c fields)

include h

theorem attribute?_setter_of_mem {f : FieldDescriptor} (hf : f ∈ c.qualifyingFields) (b : Builder) :
    ∃ m, (specOf c fields).attribute? b (setterName f.name) = some (.setter m) := by
  obtain ⟨r, hr, hfr⟩ := h.exists_resolved hf
  rw [((resolveField_eq_ok_iff ..).mp hfr).1]
  exact ⟨_, h.attribute?_setter hr b⟩

theorem quiet_of_attribute? {b : Builder} {name : String}
    (hs : ∀ m, (specOf c fields).attribute? b name ≠ some (.setter m))
    (hb : (specOf c fields).attribute? b name ≠ some .build) (arguments : List Value)
    (outcome : Except CallError Shown) : Change c b ⟨.call name arguments, outcome⟩ b := by
  refine .quiet (fun f hf => ?_) ?_
  · have hne : name ≠ setterName f.name := by
      rintro rfl
      obtain ⟨m, hm⟩ := h.attribute?_setter_of_mem hf b
      exact hs m hm
    cases outcome <;> simp [Event.accepted?, hne]
  · have hne : name ≠ buildName := by
      rintro rfl
      exact hb (attribute?_build b)
    cases outcome <;> simp [Event.isBuild, hne]

include ht

theorem setter_change {r : ResolvedField} (hr : r ∈ fields) (arguments : List Value) (b : Builder) :
    Change c b (t.event (.call (setterName r.name) arguments) b)
      (t.after (.call (setterName r.name) arguments) b) := by
  obtain ⟨f, hf, hfr⟩ := h.exists_declared hr
  obtain ⟨hn, -, -⟩ := (resolveField_eq_ok_iff ..).mp hfr
  rw [← hn]
  unfold BuilderType.event BuilderType.after
  rw [BuilderType.act_call_on]
  obtain ⟨v, ha, hb, hv, hcall⟩ | ⟨-, e, hcall⟩ := call_setter_cases h ht hr hfr b
  · rw [hcall]
    exact .assigned hf hfr ha hb hv
  · rw [hcall]
    exact .of_error ..

/-- A call does what the attribute of its name does: a setter, `build`, or one that changes nothing. -/
theorem call_change {name : String} {arguments : List Value} {b : Builder}
    (hn : ¬ t.Asks b (.call name arguments)) :
    Change c b (t.event (.call name arguments) b) (t.after (.call name arguments) b) := by
  cases ha : (specOf c fields).attribute? b name with
  | none =>
    rw [BuilderType.after_call, t.call_on_of_none b (ht ▸ ha)]
    exact h.quiet_of_attribute? (by simp [ha]) (by simp [ha]) ..
  | some a =>
    by_cases hs : ∃ m, a = .setter m
    · obtain ⟨m, rfl⟩ := hs
      obtain ⟨r, hr, -, rfl⟩ := name_of_attribute?_setter ha
      exact h.setter_change ht hr ..
    · by_cases hb : a = .build
      · subst hb
        obtain rfl := name_of_attribute?_build ha
        unfold BuilderType.event BuilderType.after
        rw [BuilderType.act_call_on, t.call_on_of_some b (ht ▸ ha)]
        obtain ⟨e, he⟩ := t.callAttribute_build_on_of_not_asks hn
        rw [he]
        exact .of_error ..
      · rw [BuilderType.after_call, t.call_on_of_some b (ht ▸ ha),
          t.callAttribute_on_snd _ _ (fun m hm => hs ⟨m, hm⟩) hb]
        refine h.quiet_of_attribute? (fun m hm => hs ⟨m, ?_⟩) (fun hm => hb ?_) ..
        · exact Option.some.inj (ha.symm.trans hm)
        · exact Option.some.inj (ha.symm.trans hm)

/-- An action that does not ask the handoff makes a change of its own. -/
theorem event_change {a : Action} {b : Builder} (hn : ¬ t.Asks b a) :
    Change c b (t.event a b) (t.after a b) := by
  cases a with
  | call name arguments => exact h.call_change ht hn
  | read name =>
    rw [BuilderType.after_read]
    exact .quiet (fun _ _ => rfl) rfl
  | poke key v => exact .quiet (fun _ _ => rfl) rfl

omit h in
theorem call_build_on (w : Work Result) (b : Builder) :
    ((t.withHandoff w).call buildName []).on b = (t.withHandoff w).build.on b := by
  have hattr : (t.withHandoff w).spec.attribute? b buildName = some .build :=
    ht ▸ attribute?_build b
  exact (t.withHandoff w).call_on_of_some b hattr []

omit h in
/-- A build that asked the handoff changes what the handoff leaves: it closes the builder, if the
handoff has returned. -/
theorem handing_change {a : Action} {b : Builder} (ha : t.Asks b a) (w : Work Result) :
    Change c (w.on b).2 ((t.withHandoff w).event a b) ((t.withHandoff w).after a b) := by
  obtain ⟨rfl, hb, hv⟩ := ha
  have hbuild := (t.withHandoff w).build_on_of_ok hb hv
  have hw : (t.withHandoff w).handoff.on b = w.on b := rfl
  unfold BuilderType.event BuilderType.after
  rw [BuilderType.act_call_on, call_build_on ht, hbuild, hw]
  rcases w.on b with ⟨e | x, after⟩
  · exact .of_error ..
  · exact .built x

end Resolution

end FluentBuilder
