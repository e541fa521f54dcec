import FluentBuilder.Proofs.Builder.Presence

/-! The life of a builder. A build asks the handoff once, and only if the builder is open and keeps
all rules; a build that fails leaves the builder as it was; and one that has returned closes it for
good. -/

namespace FluentBuilder

variable {c : ClassDescriptor} {fields : List ResolvedField} {t : BuilderType}

/-- The action calls `build` or a setter of the class. -/
def Action.Mutates (c : ClassDescriptor) : Action → Prop
  | .call member _ => member = buildName ∨ ∃ f ∈ c.qualifyingFields, member = setterName f.name
  | .read _ | .poke _ _ => False

/-- The builder is open, and its values keep every rule of every field. -/
def Ready (c : ClassDescriptor) (b : Builder) : Prop :=
  b.built = false ∧ ∀ f ∈ c.qualifyingFields, ∃ rules, resolveConstraints c.name f = .ok rules ∧
    ∀ r ∈ rules, r.holds (b.get f.name) = .ok true

namespace Change

variable {b after : Builder} {e : Event}

theorem eq_of_not_mutates (hc : Change c b e after) (he : ¬ e.action.Mutates c) : after = b := by
  cases hc with
  | assigned hf => exact absurd (.inr ⟨_, hf, rfl⟩) he
  | built => exact absurd (.inl rfl) he
  | quiet => rfl

theorem eq_of_built (hc : Change c b e after) (hb : b.built = true) : after = b := by
  cases hc with
  | assigned _ _ _ hopen => exact absurd hb (by simp [hopen])
  | built =>
    obtain ⟨values, built⟩ := b
    obtain rfl : built = true := hb
    rfl
  | quiet => rfl

end Change

namespace BuilderType

/-- What `build` gives if the handoff does this work, and the builder after it. -/
def buildWith (t : BuilderType) (w : Work Result) (b : Builder) :
    Except CallError Result × Builder :=
  ((t.withHandoff w).call buildName []).on b

/-- All that the work does to the builder are actions that call neither `build` nor a setter. -/
def QuietOn (t : BuilderType) (c : ClassDescriptor) (w : Work Result) (b : Builder) : Prop :=
  ∃ inner, t.Run b inner (w.on b).2 ∧ ∀ e ∈ inner, ¬ e.action.Mutates c

variable {b after : Builder} {past : List Event}

theorem Run.eq_of_not_mutates (h : Resolution c fields) (ht : t.spec = specOf c fields)
    (hr : t.Run b past after) (hq : ∀ e ∈ past, ¬ e.action.Mutates c) : after = b := by
  -- The invariant itself speaks of quiet runs, so that each step finds its own event quiet.
  have hkeep := hr.preserves h ht
    (P := fun past after => (∀ e ∈ past, ¬ e.action.Mutates c) → after = b)
    (fun past b₁ e b₂ hc hp hq => ?_) [] fun _ => rfl
  · exact hkeep hq
  · have hstep : b₂ = b₁ := hc.eq_of_not_mutates (hq e (by simp))
    have hbefore : b₁ = b := hp fun e' he' => hq e' (by simp [he'])
    exact hstep.trans hbefore

theorem Run.eq_of_built (h : Resolution c fields) (ht : t.spec = specOf c fields)
    (hr : t.Run b past after) (hb : b.built = true) : after = b := by
  refine hr.preserves h ht (P := fun _ after => after = b) (fun _ b₁ e b₂ hc hp => ?_) [] rfl
  have hbuilt : b₁.built = true := hp ▸ hb
  exact (hc.eq_of_built hbuilt).trans hp

theorem QuietOn.eq {w : Work Result} (h : Resolution c fields) (ht : t.spec = specOf c fields)
    (hq : t.QuietOn c w b) : (w.on b).2 = b := by
  obtain ⟨inner, hr, hi⟩ := hq
  exact hr.eq_of_not_mutates h ht hi

theorem buildWith_eq (ht : t.spec = specOf c fields) (w : Work Result) (b : Builder) :
    t.buildWith w b = (t.withHandoff w).build.on b :=
  Resolution.call_build_on ht w b

end BuilderType

theorem Builder.validate_eq_ok_iff (b : Builder) (rules : List Rule) :
    b.validate rules = .ok () ↔ ∀ r ∈ rules, r.holds (b.get r.fieldName) = .ok true := by
  induction rules with
  | nil => simp [validate]
  | cons r rules ih =>
    rw [validate, bind_unit_eq_ok_iff, Rule.check_eq_ok_iff, ih, List.forall_mem_cons]

theorem Resolution.validate_eq_ok_iff (h : Resolution c fields) (b : Builder) :
    b.validate (specOf c fields).validate.rules = .ok () ↔
      ∀ f ∈ c.qualifyingFields, ∃ rules, resolveConstraints c.name f = .ok rules ∧
        ∀ r ∈ rules, r.holds (b.get f.name) = .ok true := by
  have hrules : (specOf c fields).validate.rules = fields.flatMap (·.rules) := rfl
  rw [hrules, Builder.validate_eq_ok_iff]
  constructor
  · intro hall f hf
    obtain ⟨q, hq, hfq⟩ := h.exists_resolved hf
    obtain ⟨hn, -, hres⟩ := (resolveField_eq_ok_iff ..).mp hfq
    refine ⟨q.rules, hres, fun r hr => ?_⟩
    rw [hn, ← h.fieldName_of_mem_rules hq hr]
    exact hall r (List.mem_flatMap.mpr ⟨q, hq, hr⟩)
  · intro hall r hr
    obtain ⟨q, hq, hrq⟩ := List.mem_flatMap.mp hr
    obtain ⟨f, hf, hfq⟩ := h.exists_declared hq
    obtain ⟨hn, -, hres⟩ := (resolveField_eq_ok_iff ..).mp hfq
    obtain ⟨rules, hrules, hkeep⟩ := hall f hf
    obtain rfl : rules = q.rules := Except.ok.inj (hrules.symm.trans hres)
    rw [h.fieldName_of_mem_rules hq hrq, ← hn]
    exact hkeep r hrq

/-- A build asks the handoff exactly if the builder is ready. -/
theorem asks_iff (h : Resolution c fields) (ht : t.spec = specOf c fields) (b : Builder) :
    t.Asks b (.call buildName []) ↔ Ready c b := by
  have hv := h.validate_eq_ok_iff b
  rw [← ht] at hv
  constructor
  · rintro ⟨-, hb, hok⟩
    exact ⟨hb, hv.mp hok⟩
  · rintro ⟨hb, hall⟩
    exact ⟨rfl, hb, hv.mpr hall⟩

namespace BuilderType

theorem buildWith_of_ready (h : Resolution c fields) (ht : t.spec = specOf c fields) {b : Builder}
    (hr : Ready c b) (w : Work Result) :
    t.buildWith w b =
      match w.on b with
      | (.ok x, after) => (.ok x, { after with built := true })
      | (.error e, after) => (.error e, after) := by
  obtain ⟨-, hb, hv⟩ := (asks_iff h ht b).mpr hr
  rw [buildWith_eq ht]
  exact (t.withHandoff w).build_on_of_ok hb hv

theorem buildWith_of_built (ht : t.spec = specOf c fields) {b : Builder} (hb : b.built = true)
    (w : Work Result) : t.buildWith w b = (.error (.consumed t.spec.qualifiedName), b) := by
  rw [buildWith_eq ht]
  exact (t.withHandoff w).build_on_of_built hb

/-- An open builder that is not ready lacks a value, since the values it has keep their rules. -/
theorem buildWith_of_not_ready (h : Resolution c fields) (ht : t.spec = specOf c fields)
    {b : Builder} (hk : Kept fields b) (hb : b.built = false) (hn : ¬ Ready c b) :
    ∃ x, ∀ w, t.buildWith w b = (.error (.violation x), b) := by
  have hv := h.validate_reports hk
  rw [← ht] at hv
  cases hm : c.missing b with
  | nil =>
    rw [hm] at hv
    exact absurd ((asks_iff h ht b).mp ⟨rfl, hb, hv⟩) hn
  | cons p rest =>
    rw [hm] at hv
    obtain ⟨r, -, he⟩ := hv
    refine ⟨r.violation .null, fun w => ?_⟩
    rw [buildWith_eq ht]
    exact (t.withHandoff w).build_on_of_error hb he

end BuilderType

/-- How a builder lives after a run of calls, and what becomes of it. -/
structure LifeCycle (c : ClassDescriptor) (t : BuilderType) (past : List Event) (b : Builder) :
    Prop where
  /-- It is open until a build has returned. -/
  built_eq : b.built = past.any Event.isBuild
  /-- A ready builder is given to the handoff as it is. Whatever that does to it is done once. -/
  asks : Ready c b → ∀ w, t.buildWith w b =
    match w.on b with
    | (.ok x, after) => (.ok x, { after with built := true })
    | (.error e, after) => (.error e, after)
  /-- No handoff is asked about a builder that has built. -/
  consumed : b.built = true →
    ∀ w, t.buildWith w b = (.error (.consumed t.spec.qualifiedName), b)
  /-- No handoff is asked about a builder that breaks a rule. -/
  violated : b.built = false → ¬ Ready c b →
    ∃ x, ∀ w, t.buildWith w b = (.error (.violation x), b)
  /-- Under a handoff that calls neither `build` nor a setter, a build returns exactly if the builder
  is ready and the handoff returns. -/
  returns_iff : ∀ w, t.QuietOn c w b → ∀ x,
    (t.buildWith w b).1 = .ok x ↔ Ready c b ∧ (w.on b).1 = .ok x
  /-- Then the builder is closed, and its values stay. -/
  closes : ∀ w, t.QuietOn c w b → ∀ x, (t.buildWith w b).1 = .ok x →
    (t.buildWith w b).2 = { b with built := true }
  /-- A build that fails, for whatever reason, leaves the builder as it was, and whatever can be done
  with it next. -/
  restores : ∀ w, t.QuietOn c w b → ∀ e, (t.buildWith w b).1 = .error e →
    (t.buildWith w b).2 = b ∧
      ∀ more after, t.Run (t.buildWith w b).2 more after ↔ t.Run b more after
  /-- After a build has returned nothing changes any more, and no build and no setter returns. -/
  stays : past.any Event.isBuild = true → ∀ more after, t.Run b more after → after = b ∧
    (∀ w, t.buildWith w after = (.error (.consumed t.spec.qualifiedName), after)) ∧
    ∀ f ∈ c.qualifyingFields, ∀ arguments v, f.argument? arguments = some v →
      (t.call (setterName f.name) arguments).on after =
        (.error (.consumed t.spec.qualifiedName), after)

namespace BuilderType

theorem buildWith_cases (h : Resolution c fields) (ht : t.spec = specOf c fields) {b : Builder}
    (hk : Kept fields b) {w : Work Result} (hq : t.QuietOn c w b) :
    (∃ x, Ready c b ∧ (w.on b).1 = .ok x ∧ t.buildWith w b = (.ok x, { b with built := true })) ∨
      ¬ (Ready c b ∧ ∃ x, (w.on b).1 = .ok x) ∧ ∃ e, t.buildWith w b = (.error e, b) := by
  have hsame : (w.on b).2 = b := hq.eq h ht
  by_cases hr : Ready c b
  · have hbuild := buildWith_of_ready h ht hr w
    rcases hw : w.on b with ⟨e | x, after⟩
    · rw [hw] at hbuild hsame
      obtain rfl : after = b := hsame
      exact .inr ⟨by simp, e, hbuild⟩
    · rw [hw] at hbuild hsame
      obtain rfl : after = b := hsame
      exact .inl ⟨x, hr, rfl, hbuild⟩
  · refine .inr ⟨fun hboth => hr hboth.1, ?_⟩
    cases hb : b.built with
    | true => exact ⟨_, buildWith_of_built ht hb w⟩
    | false =>
      obtain ⟨x, hx⟩ := buildWith_of_not_ready h ht hk hb hr
      exact ⟨_, hx w⟩

end BuilderType

/-- After any run a builder lives so. -/
theorem lifeCycle_of_run {s : BuilderSpec} {handoff : Work Result} (hs : assemble c = .ok s)
    (ht : materialize s handoff = .ok t) {past : List Event} {b : Builder}
    (hr : t.Run (.new s) past b) : LifeCycle c t past b := by
  obtain ⟨fields, h, rfl⟩ := Resolution.of_assemble hs
  obtain ⟨-, rfl⟩ := (materialize_eq_ok_iff ..).mp ht
  have hspec : (BuilderType.mk (specOf c fields) handoff).spec = specOf c fields := rfl
  have hrec := Recorded.of_run h hspec hr
  have hk := Kept.of_run h hspec hr
  refine ⟨hrec.built_eq, fun hready w => BuilderType.buildWith_of_ready h hspec hready w,
    fun hb w => BuilderType.buildWith_of_built hspec hb w,
    fun hb hn => BuilderType.buildWith_of_not_ready h hspec hk hb hn, fun w hq x => ?_,
    fun w hq x hx => ?_, fun w hq e he => ?_, fun hpast more after hmore => ?_⟩
  · obtain ⟨y, hready, hw, hbuild⟩ | ⟨hn, e, hbuild⟩ := BuilderType.buildWith_cases h hspec hk hq
    · rw [hbuild, hw]
      exact ⟨fun hx => ⟨hready, hx⟩, fun hx => hx.2⟩
    · rw [hbuild]
      exact ⟨nofun, fun hx => absurd ⟨hx.1, x, hx.2⟩ hn⟩
  · obtain ⟨y, -, -, hbuild⟩ | ⟨-, e, hbuild⟩ := BuilderType.buildWith_cases h hspec hk hq
    · rw [hbuild]
    · rw [hbuild] at hx
      cases hx
  · obtain ⟨y, -, -, hbuild⟩ | ⟨-, e', hbuild⟩ := BuilderType.buildWith_cases h hspec hk hq
    · rw [hbuild] at he
      cases he
    · rw [hbuild]
      exact ⟨rfl, fun more after => Iff.rfl⟩
  · have hb : b.built = true := hrec.built_eq.trans hpast
    obtain rfl := hmore.eq_of_built h hspec hb
    refine ⟨rfl, fun w => BuilderType.buildWith_of_built hspec hb w, fun f hf arguments v ha => ?_⟩
    obtain ⟨r, hr, hfr⟩ := h.exists_resolved hf
    exact call_setter_of_built h hspec hr hfr after ha hb

/-- A builder with all that it needs, under a handoff that fails and under one that returns, and the
same builder after more calls, one of them a build. -/
theorem lifeCycle_of_run_parcel :
    ∃ s t past b later b', assemble parcel = .ok s ∧ materialize s byFields = .ok t ∧
      t.Run (.new s) past b ∧ past.length = 1 ∧
      t.buildWith byRefusal b = (.error .rejected, b) ∧
      t.buildWith byFields b = (.ok (.value b.dict), { b with built := true }) ∧
      t.Run (.new s) later b' ∧ later.length = 6 ∧
      t.buildWith byFields b' = (.error (.consumed s.qualifiedName), b') := by
  have hy : parcel.yields byFields (fun t =>
      let b := t.afterAll (.new t.spec) (parcelActions.take 1)
      !b.built && (b.validate t.spec.validate.rules).toBool &&
        (t.trace (.new t.spec) parcelActions).any Event.isBuild) = true := by decide +kernel
  obtain ⟨_, t, hs, ht, rfl, hc, hrun⟩ :=
    ClassDescriptor.exists_run_of_yields hy (parcelActions.take 1)
  simp only [Bool.and_eq_true, Bool.not_eq_true'] at hc
  obtain ⟨⟨hopen, hvalid⟩, hbuilds⟩ := hc
  have hidle : t.Idle := by
    have hhandoff : t.handoff = byFields :=
      congrArg BuilderType.handoff ((materialize_eq_ok_iff ..).mp ht).2
    intro b
    rw [hhandoff]
    rfl
  have hready : Ready parcel (t.afterAll (.new t.spec) (parcelActions.take 1)) := by
    obtain ⟨fields, h, hspec⟩ := Resolution.of_assemble hs
    obtain ⟨_, hok⟩ := exists_eq_ok_of_toBool hvalid
    exact (asks_iff h hspec _).mp ⟨rfl, hopen, hok⟩
  have hearly := lifeCycle_of_run hs ht hrun
  have hlate := lifeCycle_of_run hs ht (.of_actions hidle (.new t.spec) parcelActions)
  refine ⟨t.spec, t, _, _, _, _, hs, ht, hrun, rfl, hearly.asks hready byRefusal,
    hearly.asks hready byFields, .of_actions hidle _ parcelActions, rfl, ?_⟩
  exact hlate.consumed (hlate.built_eq.trans hbuilds) byFields

end FluentBuilder
