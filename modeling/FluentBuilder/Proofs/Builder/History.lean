import FluentBuilder.Proofs.Builder.Change
import FluentBuilder.Proofs.Value.Decidable

/-! What a builder holds after a run: for each field the value of the last call of its setter that
returned. A value that is held has passed the rules of its field. -/

namespace FluentBuilder

variable {c : ClassDescriptor} {fields : List ResolvedField} {t : BuilderType}

/-- A run is a sequence of changes: what each of them keeps, a run keeps, also where the handoff
acts on the builder. -/
theorem BuilderType.Run.preserves (h : Resolution c fields) (ht : t.spec = specOf c fields)
    {P : List Event → Builder → Prop}
    (hP : ∀ past b e after, Change c b e after → P past b → P (past ++ [e]) after)
    {b after : Builder} {past : List Event} (hr : t.Run b past after) (before : List Event)
    (hb : P before b) : P (before ++ past) after := by
  -- The run of a handoff starts in the middle of another, so what has been before is general.
  induction hr generalizing before with
  | nil => simpa using hb
  | plain a _ hn ih =>
    rw [← List.append_assoc]
    exact hP _ _ _ _ (h.event_change ht hn) (ih before hb)
  | handing w _ ha _ ih ihinner =>
    rw [← List.append_assoc, ← List.append_assoc]
    exact hP _ _ _ _ (Resolution.handing_change ht ha w) (ihinner _ (ih before hb))

namespace Change

variable {b after : Builder} {e : Event}

theorem keys_eq (hc : Change c b e after) : after.keys = b.keys := by
  cases hc with
  | assigned => exact Builder.keys_set ..
  | built => rfl
  | quiet => rfl

/-- A builder is closed by a build that returns, and by nothing else. -/
theorem built_eq (hc : Change c b e after) : after.built = (b.built || e.isBuild) := by
  cases hc with
  | @assigned f r arguments v =>
    have hn : (setterName f.name == buildName) = false := by
      simpa using setterName_ne_buildName f.name
    rw [Event.isBuild, hn, Bool.or_false]
    rfl
  | built x => simp [Event.isBuild]
  | quiet _ hb => rw [hb, Bool.or_false]

/-- The call of a setter puts its value into its own field and into no other. -/
theorem get_eq (h : Resolution c fields) (hc : Change c b e after)
    (hk : b.keys = c.qualifyingFields.map (·.name)) {f : FieldDescriptor}
    (hf : f ∈ c.qualifyingFields) : after.get f.name = (e.accepted? f).getD (b.get f.name) := by
  cases hc with
  | @assigned g r arguments v hg hgr ha =>
    by_cases hn : g.name = f.name
    · obtain rfl : g = f := h.eq_of_name_eq hg hf hn
      have hm : g.name ∈ b.keys := hk ▸ List.mem_map_of_mem hf
      simp [Builder.get_set_self, hm, Event.accepted?, ha]
    · have hs : setterName g.name ≠ setterName f.name := fun he =>
        hn (h.name_eq_of_setterName_eq hg hf he)
      rw [Builder.get_set_of_ne _ _ _ (Ne.symm hn)]
      simp [Event.accepted?, hs]
  | built x => simp [Event.accepted?, Ne.symm (setterName_ne_buildName f.name), Builder.get]
  | quiet he => rw [he f hf, Option.getD_none]

end Change

/-- The builder is what the past events say. -/
structure Recorded (c : ClassDescriptor) (past : List Event) (b : Builder) : Prop where
  keys_eq : b.keys = c.qualifyingFields.map (·.name)
  built_eq : b.built = past.any Event.isBuild
  get_eq : ∀ f ∈ c.qualifyingFields, b.get f.name = (lastAccepted? f past).getD .null

namespace Recorded

variable {past : List Event} {b : Builder}

theorem new (h : Resolution c fields) : Recorded c [] (.new (specOf c fields)) where
  keys_eq := by
    rw [Builder.keys_new, h.names_eq]
    simp [specOf]
  built_eq := rfl
  get_eq := fun f _ => Builder.get_new ..

theorem change (h : Resolution c fields) (hr : Recorded c past b) {e : Event} {after : Builder}
    (hc : Change c b e after) : Recorded c (past ++ [e]) after where
  keys_eq := hc.keys_eq.trans hr.keys_eq
  built_eq := by
    rw [hc.built_eq, hr.built_eq, List.any_append, List.any_cons, List.any_nil, Bool.or_false]
  get_eq := fun f hf => by
    rw [hc.get_eq h hr.keys_eq hf, hr.get_eq f hf, lastAccepted?_append, lastAccepted?_singleton]
    cases e.accepted? f <;> rfl

theorem of_run (h : Resolution c fields) (ht : t.spec = specOf c fields)
    (hr : t.Run (.new t.spec) past b) : Recorded c past b := by
  have hnew : Recorded c [] (.new t.spec) := ht ▸ .new h
  exact hr.preserves h ht (P := Recorded c) (fun _ _ _ _ hc hp => hp.change h hc) [] hnew

theorem dict_eq (h : Resolution c fields) (hr : Recorded c past b) :
    b.dict = .dict (c.qualifyingFields.map fun f =>
      (.text f.name, (lastAccepted? f past).getD .null)) := by
  have hd : b.keys.Nodup := by
    rw [hr.keys_eq, h.names_eq]
    exact h.names_nodup
  unfold Builder.dict
  rw [b.values_eq_of_nodup hd, hr.keys_eq, List.map_map, List.map_map]
  refine congrArg _ (List.map_congr_left fun f hf => ?_)
  simp [hr.get_eq f hf]

end Recorded

/-- The history of a builder decides all: what `values` gives, and which calls of setters return. A
call that does not return leaves the builder as it was, and its error is that of the first rule that
the value breaks, unless the builder has built or the number of arguments does not fit. -/
theorem history_decides {s : BuilderSpec} {handoff : Work Result} (hs : assemble c = .ok s)
    (ht : materialize s handoff = .ok t) {past : List Event} {b : Builder}
    (hr : t.Run (.new s) past b) :
    s.fields.map (·.name) = c.qualifyingFields.map (·.name) ∧
      (t.call valuesName []).on b = (.ok (.value (.dict (c.qualifyingFields.map fun f =>
        (.text f.name, (lastAccepted? f past).getD .null)))), b) ∧
      ∀ f ∈ c.qualifyingFields, ∃ rules, resolveConstraints c.name f = .ok rules ∧ ∀ arguments,
        ((∃ x, ((t.call (setterName f.name) arguments).on b).1 = .ok x) ↔
          past.any Event.isBuild = false ∧
            ∃ v, f.argument? arguments = some v ∧ ∀ r ∈ rules, r.holds v = .ok true) ∧
        (∀ e, ((t.call (setterName f.name) arguments).on b).1 = .error e →
          (t.call (setterName f.name) arguments).on b = (.error e, b)) ∧
        ∀ v before r after e, past.any Event.isBuild = false → f.argument? arguments = some v →
          rules = before ++ r :: after → (∀ q ∈ before, q.check v = .ok ()) → r.check v = .error e →
          (t.call (setterName f.name) arguments).on b = (.error e.callError, b) := by
  obtain ⟨fields, h, rfl⟩ := Resolution.of_assemble hs
  obtain ⟨-, rfl⟩ := (materialize_eq_ok_iff ..).mp ht
  have hrec := Recorded.of_run h rfl hr
  refine ⟨?_, ?_, fun f hf => ?_⟩
  · rw [h.names_eq]
    simp [specOf]
  · rw [BuilderType.call_on_of_some _ _ (Resolution.attribute?_values b), ← hrec.dict_eq h]
    rfl
  · obtain ⟨r, hr, hfr⟩ := h.exists_resolved hf
    obtain ⟨-, -, hrules⟩ := (resolveField_eq_ok_iff ..).mp hfr
    refine ⟨r.rules, hrules, fun arguments => ⟨?_, fun e he => ?_, ?_⟩⟩
    · rw [call_setter_ok_iff h rfl hr hfr b, hrec.built_eq]
    · exact call_setter_on_of_error h rfl hr hfr b he
    · intro v before q after e hopen ha hsplit hbefore hq
      have hv : checkAll v r.rules = .error e := by
        rw [checkAll_eq_forM, forM_eq_error_iff]
        exact ⟨before, q, after, hsplit, hbefore, hq⟩
      exact call_setter_of_error h rfl hr hfr b ha (hrec.built_eq.trans hopen) hv

def parcelWeight : FieldDescriptor where
  name := "weight"
  type := some { name := "Integer" }
  constraints := [.nonNull, .range { min := .int 1, max := .int 9 }]

def parcelLabels : FieldDescriptor where
  name := "labels"
  type := some (.arrayOf { name := "String", kind := .text })
  constraints := [.size (.int 0) (.int 2)]

/-- A class with a field whose setter takes one argument and a field whose setter takes any. -/
def parcel : ClassDescriptor where
  name := "Parcel"
  fields := [parcelWeight, parcelLabels]

def parcelActions : List Action :=
  [.call "withWeight" [.int 3], .call "withWeight" [.int 12], .call "withLabels" [.text "a"],
    .call "withWeight" [], .call "build" [], .call "withWeight" [.int 5]]

theorem history_decides_parcel :
    ∃ s t past b, assemble parcel = .ok s ∧ materialize s byFields = .ok t ∧
      t.Run (.new s) past b ∧ past.length = 6 ∧
      (t.call valuesName []).on b = (.ok (.value (.dict [(.text "weight", .int 3),
        (.text "labels", .list [.text "a"])])), b) := by
  have hy : parcel.yields byFields (fun t =>
      lastAccepted? parcelWeight (t.trace (.new t.spec) parcelActions) = some (.int 3) ∧
        lastAccepted? parcelLabels (t.trace (.new t.spec) parcelActions) =
          some (.list [.text "a"])) = true := by decide +kernel
  obtain ⟨_, t, hs, ht, rfl, hc, hr⟩ := ClassDescriptor.exists_run_of_yields hy parcelActions
  obtain ⟨hw, hl⟩ := of_decide_eq_true hc
  refine ⟨t.spec, t, _, _, hs, ht, hr, rfl, ?_⟩
  rw [(history_decides hs ht hr).2.1]
  change (Except.ok (Result.value (.dict [(.text "weight", (lastAccepted? parcelWeight _).getD _),
    (.text "labels", (lastAccepted? parcelLabels _).getD _)])), _) = _
  rw [hw, hl]
  rfl

end FluentBuilder
