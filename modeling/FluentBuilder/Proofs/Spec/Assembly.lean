import FluentBuilder.Proofs.Class.Names
import FluentBuilder.Proofs.Rule.Resolve
import FluentBuilder.Spec.Assembly
import Mathlib.Data.List.Nodup

/-! What a derived builder has: one field and one setter for each field that takes part, with the
rules of its constraints, under names that are distinct. -/

namespace FluentBuilder

variable {c : ClassDescriptor} {s : BuilderSpec}

theorem selectedFields_eq_ok_iff (c : ClassDescriptor) (fs : List FieldDescriptor) :
    selectedFields c = .ok fs ↔ c.checkStructure = .ok () ∧ c.qualifyingFields = fs := by
  unfold selectedFields ClassDescriptor.selectFields
  cases h : c.checkStructure with
  | error e => simp [Except.mapError, bind, Except.bind]
  | ok u => simp [Except.mapError, bind, Except.bind, pure, Except.pure]

theorem checkNames_eq_ok_iff (c : ClassDescriptor) (fs : List FieldDescriptor) :
    checkNames c fs = .ok () ↔ builderName ∉ c.memberNames ∧ c.name ≠ builderName ∧
      ((fs.map (·.name)).map setterName).Nodup := by
  unfold checkNames checkCollisions
  by_cases hm : builderName ∈ c.memberNames
  · simp [hm, Except.mapError]
  · by_cases hc : c.name = builderName
    · simp [hm, hc, Except.mapError]
    · have hs := checkSetters_eq_ok_iff [] (fs.map (·.name))
      simp only [List.lookup_nil, implies_true, true_and] at hs
      simp only [hm, hc, List.contains_eq_mem, decide_false, Bool.false_eq_true, if_false,
        not_false_eq_true, ne_eq, true_and, ← hs]
      cases checkSetters [] (fs.map (·.name)) <;> simp [Except.mapError]

theorem resolveField_eq_ok_iff (owner : String) (f : FieldDescriptor) (r : ResolvedField) :
    resolveField owner f = .ok r ↔
      f.name = r.name ∧ f.type = some r.type ∧ resolveConstraints owner f = .ok r.rules := by
  unfold resolveField FieldDescriptor.typeFor
  cases hr : resolveConstraints owner f with
  | error e => simp [bind, Except.bind]
  | ok rules =>
    cases ht : f.type with
    | none => simp [bind, Except.bind]
    | some t =>
      cases r
      simp [bind, Except.bind, pure, Except.pure]

theorem assemble_eq_ok_iff (c : ClassDescriptor) (s : BuilderSpec) :
    assemble c = .ok s ↔ c.checkStructure = .ok () ∧ checkNames c c.qualifyingFields = .ok () ∧
      ∃ fields, List.Forall₂ (fun f r => resolveField c.name f = .ok r) c.qualifyingFields fields ∧
        s = specOf c fields := by
  unfold assemble
  simp only [bind_eq_ok_iff, selectedFields_eq_ok_iff, mapM_eq_ok_iff, pure, Except.pure,
    Except.ok.injEq]
  constructor
  · rintro ⟨fs, ⟨hc, rfl⟩, ⟨⟩, hn, fields, hf, rfl⟩
    exact ⟨hc, hn, fields, hf, rfl⟩
  · rintro ⟨hc, hn, fields, hf, rfl⟩
    exact ⟨_, ⟨hc, rfl⟩, (), hn, fields, hf, rfl⟩

theorem map_name_eq {owner : String} {fs : List FieldDescriptor} {fields : List ResolvedField}
    (h : List.Forall₂ (fun f r => resolveField owner f = .ok r) fs fields) :
    fs.map (·.name) = fields.map (·.name) :=
  map_eq_map_of_forall₂ h fun _ _ hr => ((resolveField_eq_ok_iff ..).mp hr).1

structure Resolution (c : ClassDescriptor) (fields : List ResolvedField) : Prop where
  resolved : List.Forall₂ (fun f r => resolveField c.name f = .ok r) c.qualifyingFields fields
  names_nodup : (fields.map (·.name)).Nodup
  setterNames_nodup : (fields.map fun r => setterName r.name).Nodup
  element_ne_none : ∀ r ∈ fields, r.type.kind = .array → r.type.element ≠ none

namespace Resolution

variable {fields : List ResolvedField}

theorem names_eq (h : Resolution c fields) :
    c.qualifyingFields.map (·.name) = fields.map (·.name) := map_name_eq h.resolved

theorem exists_resolved (h : Resolution c fields) {f : FieldDescriptor}
    (hf : f ∈ c.qualifyingFields) : ∃ r ∈ fields, resolveField c.name f = .ok r :=
  exists_of_forall₂_left h.resolved hf

theorem exists_declared (h : Resolution c fields) {r : ResolvedField} (hr : r ∈ fields) :
    ∃ f ∈ c.qualifyingFields, resolveField c.name f = .ok r :=
  exists_of_forall₂_right h.resolved hr

theorem of_assemble (h : assemble c = .ok s) :
    ∃ fields, Resolution c fields ∧ s = specOf c fields := by
  obtain ⟨hc, hn, fields, hf, rfl⟩ := (assemble_eq_ok_iff c s).mp h
  have hnames := map_name_eq hf
  obtain ⟨-, -, hs⟩ := (checkNames_eq_ok_iff ..).mp hn
  obtain ⟨hall, hd⟩ := (checkFields_eq_ok_iff ..).mp (c.checkStructure_eq_ok_iff.mp hc).2.2
  refine ⟨fields, ⟨hf, ?_, ?_, fun r hr => ?_⟩, rfl⟩
  · rw [← hnames]
    exact hd.sublist (List.filter_sublist.map _)
  · rw [hnames, List.map_map] at hs
    exact hs
  · obtain ⟨f, hmem, hfr⟩ := exists_of_forall₂_right hf hr
    obtain ⟨-, -, ht⟩ := hall f (List.mem_of_mem_filter hmem)
    obtain ⟨t, htype, -, he⟩ := (checkFieldType_eq_ok_iff ..).mp ht
    obtain ⟨-, hrtype, -⟩ := (resolveField_eq_ok_iff ..).mp hfr
    obtain rfl : t = r.type := Option.some.inj (htype.symm.trans hrtype)
    exact he

theorem forall₂_mem (h : Resolution c fields) :
    List.Forall₂ (fun f r => r ∈ fields ∧ resolveField c.name f = .ok r) c.qualifyingFields
      fields :=
  ((List.forall₂_and_left _ _).mpr ⟨fun _ hr => hr, h.resolved.flip⟩).flip

theorem eq_of_name_eq (h : Resolution c fields) {f g : FieldDescriptor}
    (hf : f ∈ c.qualifyingFields) (hg : g ∈ c.qualifyingFields) (hn : f.name = g.name) : f = g :=
  List.inj_on_of_nodup_map (h.names_eq ▸ h.names_nodup) hf hg hn

theorem name_eq_of_setterName_eq (h : Resolution c fields) {f g : FieldDescriptor}
    (hf : f ∈ c.qualifyingFields) (hg : g ∈ c.qualifyingFields)
    (hn : setterName f.name = setterName g.name) : f.name = g.name := by
  obtain ⟨r, hr, hfr⟩ := h.exists_resolved hf
  obtain ⟨q, hq, hgq⟩ := h.exists_resolved hg
  rw [((resolveField_eq_ok_iff ..).mp hfr).1, ((resolveField_eq_ok_iff ..).mp hgq).1] at hn ⊢
  exact congrArg ResolvedField.name (List.inj_on_of_nodup_map h.setterNames_nodup hr hq hn)

/-- Kept in a mapping by the names of the fields, the rules of a field are found under its name. -/
theorem lookup_rules (h : Resolution c fields) {r : ResolvedField} (hr : r ∈ fields) :
    (fields.map fun r => (r.name, r.rules)).lookup r.name = some r.rules := by
  have hkeys : ((fields.map fun r => (r.name, r.rules)).map Prod.fst).Nodup := by
    rw [List.map_map]
    exact h.names_nodup
  rw [lookup_eq_some_iff_of_nodup hkeys]
  exact List.mem_map_of_mem hr

theorem exists_constraint (h : Resolution c fields) {r : ResolvedField} (hr : r ∈ fields)
    {rule : Rule} (hrule : rule ∈ r.rules) :
    ∃ f ∈ c.qualifyingFields, f.name = r.name ∧
      ∃ k ∈ f.constraints, resolveConstraint c.name f k = .ok rule := by
  obtain ⟨f, hf, hfr⟩ := h.exists_declared hr
  obtain ⟨hn, -, hrules⟩ := (resolveField_eq_ok_iff ..).mp hfr
  exact ⟨f, hf, hn, exists_constraint_of_mem hrules hrule⟩

theorem fieldName_of_mem_rules (h : Resolution c fields) {r : ResolvedField} (hr : r ∈ fields)
    {rule : Rule} (hrule : rule ∈ r.rules) : rule.fieldName = r.name := by
  obtain ⟨f, -, hn, k, -, hk⟩ := h.exists_constraint hr hrule
  exact (resolveConstraint_enforces hk).fieldName.trans hn

end Resolution

end FluentBuilder
