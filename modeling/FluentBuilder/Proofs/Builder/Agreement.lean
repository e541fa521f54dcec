import FluentBuilder.Proofs.Builder.Run
import FluentBuilder.Proofs.Spec.Description

/-! Builders that agree cannot be told apart by what is done with them: every step shows the same on
both, and leaves both in the same state. -/

namespace FluentBuilder

namespace Rule.Agree

variable {r q : Rule}

theorem check_eq (h : r.Agree q) : r.check = q.check := by
  have hviolation : r.violation = q.violation := by
    funext v
    simp only [Rule.violation, h.fieldName, h.kind, h.message]
  funext v
  simp only [Rule.check, h.holds, hviolation]

end Rule.Agree

section

variable {rs qs : List Rule}

theorem checkAll_eq_of_agree (h : List.Forall₂ Rule.Agree rs qs) (v : Value) :
    checkAll v rs = checkAll v qs := by
  induction h with
  | nil => rfl
  | cons hr _ ih => rw [checkAll, checkAll, hr.check_eq, ih]

theorem Builder.validate_eq_of_agree (h : List.Forall₂ Rule.Agree rs qs) (b : Builder) :
    b.validate rs = b.validate qs := by
  induction h with
  | nil => rfl
  | cons hr _ ih => rw [Builder.validate, Builder.validate, hr.check_eq, hr.fieldName, ih]

end

theorem Method.Agree.refl (m : Method) : m.Agree m :=
  ⟨rfl, rfl, rfl, List.forall₂_same.mpr fun _ _ => ⟨rfl, rfl, rfl, rfl⟩⟩

/-- Setters that agree, the descriptions of builders that agree, or the same attribute. -/
inductive Attribute.Agree : Attribute → Attribute → Prop
  | setter {m n : Method} : m.Agree n → Agree (.setter m) (.setter n)
  | description {s t : BuilderSpec} : s.Agree t → Agree (.description s) (.description t)
  | same (a : Attribute) : Agree a a

theorem Attribute.rel_self : ∀ a : Option Attribute, Option.Rel Attribute.Agree a a
  | none => .none
  | some a => .some (.same a)

theorem Attribute.Agree.reading_eq {a b : Attribute} (h : a.Agree b) : a.reading = b.reading := by
  cases h with
  | setter h => rw [reading, reading, h.name]
  | description h => rw [reading, reading, h.qualifiedName]
  | same => rfl

namespace BuilderSpec.Agree

variable {s t : BuilderSpec}

theorem new_eq (h : s.Agree t) : Builder.new s = Builder.new t := by
  have hvalues : (s.fields.map (·.name)).map (·, Value.null) =
      (t.fields.map (·.name)).map (·, Value.null) := congrArg _ h.fields
  rw [List.map_map, List.map_map] at hvalues
  exact congrArg (Builder.mk · false) hvalues

theorem commonAttribute?_rel (h : s.Agree t) (b : Builder) (name : String) :
    Option.Rel Attribute.Agree (s.commonAttribute? b name) (t.commonAttribute? b name) := by
  unfold commonAttribute?
  by_cases hn : name = specName
  · rw [if_pos hn, if_pos hn]
    exact .some (.description h)
  · rw [if_neg hn, if_neg hn]
    exact Attribute.rel_self _

theorem attribute?_rel (h : s.Agree t) (b : Builder) (name : String) :
    Option.Rel Attribute.Agree (s.attribute? b name) (t.attribute? b name) := by
  have hfind := find?_rel (p := (·.name == name)) h.setters fun m n hmn => by rw [hmn.name]
  have hcommon := h.commonAttribute?_rel b name
  -- A setter is found on both sides or on none, and so is a common attribute.
  unfold attribute?
  generalize s.setters.find? (·.name == name) = x at hfind ⊢
  generalize t.setters.find? (·.name == name) = y at hfind ⊢
  cases hfind with
  | some hmn => exact .some (.setter hmn)
  | none =>
    dsimp only
    generalize s.commonAttribute? b name = x at hcommon ⊢
    generalize t.commonAttribute? b name = y at hcommon ⊢
    cases hcommon with
    | some ha => exact .some ha
    | none => exact Attribute.rel_self _

theorem read_eq (h : s.Agree t) : s.read = t.read := by
  funext name
  refine bind_congr fun b => ?_
  have hrel := h.attribute?_rel b name
  generalize s.attribute? b name = x at hrel ⊢
  generalize t.attribute? b name = y at hrel ⊢
  cases hrel with
  | some ha => simp only [ha.reading_eq]
  | none => rfl

variable {m n : Method}

theorem setterArgument_eq (h : s.Agree t) (hm : m.Agree n) :
    s.setterArgument m = t.setterArgument n := by
  have hany : m.parameters.any (·.variadic) = n.parameters.any (·.variadic) := by
    have hflags := congrArg (List.any · id) hm.variadic
    simpa [List.any_map] using hflags
  funext arguments
  simp only [setterArgument, qualified, hany, h.qualifiedName, hm.name]

theorem ensureOpen_eq (h : s.Agree t) : s.ensureOpen = t.ensureOpen := by
  unfold ensureOpen
  rw [h.qualifiedName]

theorem callSetter_eq (h : s.Agree t) (hm : m.Agree n) : s.callSetter m = t.callSetter n := by
  funext arguments
  unfold callSetter assign
  simp only [h.setterArgument_eq hm, h.ensureOpen_eq, hm.assigns, checkAll_eq_of_agree hm.rules]

theorem validateAll_eq (h : s.Agree t) : s.validateAll = t.validateAll := by
  unfold validateAll
  simp only [Builder.validate_eq_of_agree h.rules]

theorem build_eq (h : s.Agree t) (w : Work Result) :
    BuilderType.build ⟨s, w⟩ = BuilderType.build ⟨t, w⟩ := by
  unfold BuilderType.build
  rw [h.ensureOpen_eq, h.validateAll_eq]

theorem callAttribute_eq (h : s.Agree t) (w : Work Result) (arguments : List Value)
    {a b : Attribute} (hab : a.Agree b) :
    BuilderType.callAttribute ⟨s, w⟩ arguments a =
      BuilderType.callAttribute ⟨t, w⟩ arguments b := by
  cases hab with
  | setter hmn => exact congrFun (h.callSetter_eq hmn) arguments
  | description => rfl
  | same a =>
    unfold BuilderType.callAttribute
    cases a with
    | value v => rfl
    | description s => rfl
    | setter m => exact congrFun (h.callSetter_eq (.refl m)) arguments
    | create => simp only [h.new_eq]
    | values => rfl
    | validate => simp only [h.validateAll_eq]
    | build => simp only [h.build_eq]
    | ensureOpen => simp only [h.ensureOpen_eq]

theorem call_eq (h : s.Agree t) (w : Work Result) :
    BuilderType.call ⟨s, w⟩ = BuilderType.call ⟨t, w⟩ := by
  funext name arguments
  refine bind_congr fun b => ?_
  have hrel := h.attribute?_rel b name
  generalize s.attribute? b name = x at hrel ⊢
  generalize t.attribute? b name = y at hrel ⊢
  cases hrel with
  | some ha => exact h.callAttribute_eq w arguments ha
  | none => rfl

theorem act_eq (h : s.Agree t) (w : Work Result) :
    BuilderType.act ⟨s, w⟩ = BuilderType.act ⟨t, w⟩ := by
  funext a
  cases a with
  | call member arguments => simp only [BuilderType.act, h.call_eq]
  | read member => simp only [BuilderType.act, h.read_eq]
  | poke key v => rfl

theorem qualifiedName_eq (h : s.Agree t) (w : Work Result) :
    BuilderType.qualifiedName ⟨s, w⟩ = BuilderType.qualifiedName ⟨t, w⟩ := by
  funext name
  have hfind := find?_rel (p := (·.name == name)) h.setters fun m n hmn => by rw [hmn.name]
  unfold BuilderType.qualifiedName
  dsimp only
  generalize s.setters.find? (·.name == name) = x at hfind ⊢
  generalize t.setters.find? (·.name == name) = y at hfind ⊢
  cases hfind with
  | some hmn => simp only [qualified, h.qualifiedName, hmn.name]
  | none => rfl

theorem perform_eq (h : s.Agree t) (w : Work Result) :
    Session.perform ⟨s, w⟩ = Session.perform ⟨t, w⟩ := by
  funext session on step
  cases step <;>
    simp only [Session.perform, Session.act, h.act_eq, h.new_eq, h.qualifiedName_eq]

theorem materialize_cases (h : s.Agree t) (w : Work Result) :
    (∃ e, materialize s w = .error e ∧ materialize t w = .error e) ∨
      materialize s w = .ok ⟨s, w⟩ ∧ materialize t w = .ok ⟨t, w⟩ := by
  have hfind : (s.fields.find? fun f => isReserved f.name).map (·.name) =
      (t.fields.find? fun f => isReserved f.name).map (·.name) := by
    have hnames := congrArg (List.find? isReserved) h.fields
    rw [List.find?_map, List.find?_map] at hnames
    exact hnames
  unfold materialize
  rw [h.qualifiedName]
  -- Fields may differ in their types, so only the names of what is found are the same.
  generalize (s.fields.find? fun f => isReserved f.name) = x at hfind ⊢
  generalize (t.fields.find? fun f => isReserved f.name) = y at hfind ⊢
  cases x with
  | none =>
    cases y with
    | none => exact .inr ⟨rfl, rfl⟩
    | some g => cases hfind
  | some f =>
    cases y with
    | none => cases hfind
    | some g =>
      have hname : f.name = g.name := by simpa using hfind
      exact .inl ⟨_, rfl, by rw [hname]⟩

end BuilderSpec.Agree

/-- What a handoff does with its builder: some last work on the state, or an action on the builder
and then what the outcome of that action calls for. The action may ask a handoff in turn. -/
inductive Handoff
  | last (w : Work Result)
  | act (a : Action) (asked : Handoff) (next : Except CallError Shown → Handoff)

def Handoff.work (s : BuilderSpec) : Handoff → Work Result
  | .last w => w
  | .act a asked next => do
    let outcome ← ExceptT.lift (BuilderType.act ⟨s, asked.work s⟩ a).run
    (next outcome).work s

theorem Handoff.work_eq {s t : BuilderSpec} (h : s.Agree t) (p : Handoff) :
    p.work s = p.work t := by
  induction p with
  | last w => rfl
  | act a asked next hasked hnext => simp only [work, hasked, h.act_eq, hnext]

/-- The type when its handoff does this, or what it was made to do. -/
def BuilderType.asking (t : BuilderType) : Option Handoff → BuilderType
  | none => t
  | some p => t.withHandoff (p.work t.spec)

/-- A step of a session. If the step asks the handoff, this may do something `other` than what it
was made to do. -/
structure Task where
  on : String
  step : Step
  other : Option Handoff := none

/-- What each step shows, with the builders after it. -/
def BuilderType.transcript (t : BuilderType) (session : Session) :
    List Task → List (Except CallError Shown × Session)
  | [] => []
  | task :: rest =>
    let done := session.perform (t.asking task.other) task.on task.step
    done :: t.transcript done.2 rest

namespace BuilderSpec.Agree

variable {s t : BuilderSpec}

theorem perform_asking_eq (h : s.Agree t) (w : Work Result) (other : Option Handoff) :
    Session.perform (BuilderType.asking ⟨s, w⟩ other) =
      Session.perform (BuilderType.asking ⟨t, w⟩ other) := by
  cases other with
  | none => exact h.perform_eq w
  | some p =>
    simp only [BuilderType.asking, BuilderType.withHandoff, p.work_eq h]
    exact h.perform_eq _

theorem transcript_eq (h : s.Agree t) (w : Work Result) (session : Session) (tasks : List Task) :
    BuilderType.transcript ⟨s, w⟩ session tasks = BuilderType.transcript ⟨t, w⟩ session tasks := by
  induction tasks generalizing session with
  | nil => rfl
  | cons task tasks ih => simp only [BuilderType.transcript, h.perform_asking_eq, ih]

end BuilderSpec.Agree

/-- The description decides what rules do with values, whether a builder type can be made, and what
every step on builders of that type shows and leaves. -/
theorem behave_alike_of_describe_eq {c d : ClassDescriptor} {s t : BuilderSpec}
    (hs : assemble c = .ok s) (ht : assemble d = .ok t) (hc : c.IsWhole) (hd : d.IsWhole)
    (h : s.describe = t.describe) :
    List.Forall₂ (fun m n => m.name = n.name ∧
        List.Forall₂ (fun r q => r.holds = q.holds ∧ r.check = q.check) m.rules n.rules)
      s.setters t.setters ∧
    List.Forall₂ (fun r q => r.holds = q.holds ∧ r.check = q.check)
      s.validate.rules t.validate.rules ∧
    ∀ (p : Handoff) (tasks : List Task),
      (materialize s (p.work s)).map (·.transcript {} tasks) =
        (materialize t (p.work t)).map (·.transcript {} tasks) := by
  have hst := BuilderSpec.agree_of_describe_eq hs ht hc hd h
  have hrules {rs qs : List Rule} (hrq : List.Forall₂ Rule.Agree rs qs) :
      List.Forall₂ (fun r q => r.holds = q.holds ∧ r.check = q.check) rs qs :=
    hrq.imp fun _ _ ha => ⟨ha.holds, ha.check_eq⟩
  refine ⟨hst.setters.imp fun _ _ hmn => ⟨hmn.name, hrules hmn.rules⟩, hrules hst.rules, ?_⟩
  intro p tasks
  rw [p.work_eq hst]
  obtain ⟨e, hes, het⟩ | ⟨hos, hot⟩ := hst.materialize_cases (p.work t)
  · rw [hes, het]
  · rw [hos, hot]
    exact congrArg Except.ok (hst.transcript_eq (p.work t) {} tasks)

/-- An absent bound that is exclusive, a missing least size, a field that takes no part: none of
these shows in a description. -/
def gauge : ClassDescriptor where
  name := "Gauge"
  fields := [
    { name := "level", type := some { name := "int", kind := .scalar },
      constraints := [.range ⟨.int 1, .null, false, true⟩] },
    { name := "spare", type := some { name := "int", kind := .scalar }, isExcluded := true },
    { name := "marks", type := some { name := "List", kind := .sequence },
      constraints := [.size .null (.int 3)] }]

def plainGauge : ClassDescriptor where
  name := "Gauge"
  fields := [
    { name := "level", type := some { name := "int", kind := .scalar },
      constraints := [.range ⟨.int 1, .null, false, false⟩] },
    { name := "marks", type := some { name := "List", kind := .sequence },
      constraints := [.size (.int 0) (.int 3)] }]

theorem behave_alike_gauge :
    ∃ s t, assemble gauge = .ok s ∧ assemble plainGauge = .ok t ∧ gauge.IsWhole ∧
      plainGauge.IsWhole ∧ s.describe = t.describe ∧ s.equal t = false ∧
      ∀ tasks, (materialize s byFields).map (·.transcript {} tasks) =
        (materialize t byFields).map (·.transcript {} tasks) := by
  have hy : gauge.yields byFields (fun u => plainGauge.yields byFields fun v =>
      u.spec.describe = v.spec.describe ∧ u.spec.equal v.spec = false) = true := by decide +kernel
  obtain ⟨s, u, hs, hu, hy⟩ := ClassDescriptor.exists_of_yields hy
  obtain ⟨t, v, ht, hv, hy⟩ := ClassDescriptor.exists_of_yields hy
  obtain ⟨-, rfl⟩ := (materialize_eq_ok_iff ..).mp hu
  obtain ⟨-, rfl⟩ := (materialize_eq_ok_iff ..).mp hv
  obtain ⟨hdescribe, hequal⟩ := of_decide_eq_true hy
  have hgauge : gauge.IsWhole := by
    simp [ClassDescriptor.IsWhole, ClassDescriptor.qualifyingFields, gauge, Constraint.IsWhole,
      Value.IsWhole]
  have hplain : plainGauge.IsWhole := by
    simp [ClassDescriptor.IsWhole, ClassDescriptor.qualifyingFields, plainGauge,
      Constraint.IsWhole, Value.IsWhole]
  exact ⟨s, t, hs, ht, hgauge, hplain, hdescribe, hequal,
    (behave_alike_of_describe_eq hs ht hgauge hplain hdescribe).2.2 (.last byFields)⟩

end FluentBuilder
