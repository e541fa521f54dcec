import FluentBuilder.Proofs.Class.Offence
import FluentBuilder.Proofs.Spec.Fault

/-! What deriving a builder gives for every class: a builder if structure, names and constraints are
all sound, else the failure of the first of them that is not, at the first place where it is not. -/

namespace FluentBuilder

def FieldDescriptor.Resolves (owner : String) (f : FieldDescriptor) : Prop :=
  ∀ k ∈ f.constraints, ∃ r, resolveConstraint owner f k = .ok r

theorem exists_resolveConstraints_iff (owner : String) (f : FieldDescriptor) :
    (∃ rules, resolveConstraints owner f = .ok rules) ↔ f.Resolves owner :=
  exists_mapM_eq_ok_iff ..

namespace ClassDescriptor

variable (c : ClassDescriptor)

/-- The first constraint that does not resolve, in the order of the fields and of the constraints of
each, and its failure. -/
inductive ConstraintOffence : Failure → Prop
  | mk {before : List FieldDescriptor} {f : FieldDescriptor} {after : List FieldDescriptor}
      {ks : List Constraint} {k : Constraint} {ls : List Constraint} {x : Failure} :
      c.qualifyingFields = before ++ f :: after → f.constraints = ks ++ k :: ls →
      (∀ g ∈ before, g.Resolves c.name) → (∀ j ∈ ks, ∃ r, resolveConstraint c.name f j = .ok r) →
      resolveConstraint c.name f k = .error x → ConstraintOffence x

/-- What stops the derivation of the builder: the structure, else the names, else a constraint. -/
inductive Offence : Failure → Prop
  | structure {e : ClassError} : c.StructureOffence e → Offence (.generation (.badClass e))
  | name {n : NameCollision} : c.SoundStructure → c.NameOffence n → Offence (.generation n.error)
  | constraint {x : Failure} : c.SoundStructure → c.SoundNames → c.ConstraintOffence x → Offence x

variable {c}

theorem exists_resolved_iff_resolves (h : c.SoundStructure) {f : FieldDescriptor}
    (hf : f ∈ c.qualifyingFields) :
    (∃ r, resolveField c.name f = .ok r) ↔ f.Resolves c.name := by
  obtain ⟨t, ht⟩ := exists_type_of_checkStructure (c.checkStructure_eq_ok_iff_sound.mpr h) hf
  rw [exists_resolved_iff c.name ht, exists_resolveConstraints_iff]

theorem exists_resolvedFields_iff (h : c.SoundStructure) :
    (∃ fields, c.qualifyingFields.mapM (resolveField c.name) = .ok fields) ↔
      ∀ f ∈ c.qualifyingFields, f.Resolves c.name := by
  rw [exists_mapM_eq_ok_iff]
  exact forall₂_congr fun f hf => exists_resolved_iff_resolves h hf

theorem resolvedFields_eq_error_iff (h : c.SoundStructure) (x : Failure) :
    c.qualifyingFields.mapM (resolveField c.name) = .error x ↔ c.ConstraintOffence x := by
  -- Every field of a sound class has a type, so only its constraints can fail.
  have htyped {f : FieldDescriptor} (hf : f ∈ c.qualifyingFields) : ∃ t, f.type = some t :=
    exists_type_of_checkStructure (c.checkStructure_eq_ok_iff_sound.mpr h) hf
  rw [mapM_eq_error_iff]
  constructor
  · rintro ⟨before, f, after, hs, hb, hx⟩
    obtain ⟨t, ht⟩ := htyped (f := f) (by simp [hs])
    rw [resolveField_eq_error_iff c.name ht] at hx
    obtain ⟨ks, k, ls, hks, hok, hk⟩ := (mapM_eq_error_iff ..).mp hx
    refine .mk hs hks (fun g hg => ?_) hok hk
    have hmem : g ∈ c.qualifyingFields := by simp [hs, hg]
    exact (exists_resolved_iff_resolves h hmem).mp (hb g hg)
  · rintro @⟨before, f, after, ks, k, ls, _, hs, hks, hb, hok, hk⟩
    refine ⟨before, f, after, hs, fun g hg => ?_, ?_⟩
    · have hmem : g ∈ c.qualifyingFields := by simp [hs, hg]
      exact (exists_resolved_iff_resolves h hmem).mpr (hb g hg)
    · obtain ⟨t, ht⟩ := htyped (f := f) (by simp [hs])
      rw [resolveField_eq_error_iff c.name ht]
      exact (mapM_eq_error_iff ..).mpr ⟨ks, k, ls, hks, hok, hk⟩

variable (c)

theorem selectFields_eq_error_iff (e : ClassError) :
    c.selectFields = .error e ↔ c.StructureOffence e := by
  unfold selectFields
  rw [bind_unit_eq_error_iff, checkStructure_eq_error_iff]
  simp [pure, Except.pure]

theorem selectedFields_eq_error_iff (x : Failure) :
    selectedFields c = .error x ↔ ∃ e, c.StructureOffence e ∧ x = .generation (.badClass e) := by
  unfold selectedFields
  simp only [mapError_eq_error_iff, selectFields_eq_error_iff]

theorem checkNames_eq_error_iff (x : Failure) :
    checkNames c c.qualifyingFields = .error x ↔
      ∃ n, c.NameOffence n ∧ x = .generation n.error := by
  unfold checkNames
  simp only [mapError_eq_error_iff, checkCollisions_eq_error_iff]

theorem checkNames_eq_ok_iff_sound :
    checkNames c c.qualifyingFields = .ok () ↔ c.SoundNames := by
  rw [checkNames_eq_ok_iff, List.map_map]
  constructor
  · rintro ⟨hm, hc, hd⟩
    exact ⟨hm, hc, hd⟩
  · rintro ⟨hm, hc, hd⟩
    exact ⟨hm, hc, hd⟩

end ClassDescriptor

/-- Exactly when a builder is derived, and exactly which failure there is otherwise. -/
theorem assemble_outcome (c : ClassDescriptor) :
    ((∃ s, assemble c = .ok s) ↔
      c.SoundStructure ∧ c.SoundNames ∧ ∀ f ∈ c.qualifyingFields, f.Resolves c.name) ∧
    ∀ x, assemble c = .error x ↔ c.Offence x := by
  constructor
  · simp only [assemble_eq_ok_iff, c.checkStructure_eq_ok_iff_sound, c.checkNames_eq_ok_iff_sound]
    constructor
    · rintro ⟨s, hs, hn, fields, hf, -⟩
      refine ⟨hs, hn, (ClassDescriptor.exists_resolvedFields_iff hs).mp ⟨fields, ?_⟩⟩
      exact (mapM_eq_ok_iff ..).mpr hf
    · rintro ⟨hs, hn, hr⟩
      obtain ⟨fields, hf⟩ := (ClassDescriptor.exists_resolvedFields_iff hs).mpr hr
      exact ⟨specOf c fields, hs, hn, fields, (mapM_eq_ok_iff ..).mp hf, rfl⟩
  · intro x
    rw [assemble_eq_error_iff, c.selectedFields_eq_error_iff, c.checkNames_eq_error_iff,
      c.checkStructure_eq_ok_iff_sound, c.checkNames_eq_ok_iff_sound]
    constructor
    · rintro (⟨e, he, rfl⟩ | ⟨hs, ⟨n, hn, rfl⟩ | ⟨hn, hf⟩⟩)
      · exact .structure he
      · exact .name hs hn
      · exact .constraint hs hn ((ClassDescriptor.resolvedFields_eq_error_iff hs x).mp hf)
    · rintro (he | ⟨hs, hn⟩ | ⟨hs, hn, hx⟩)
      · exact .inl ⟨_, he, rfl⟩
      · exact .inr ⟨hs, .inl ⟨_, hn, rfl⟩⟩
      · exact .inr ⟨hs, .inr ⟨hn, (ClassDescriptor.resolvedFields_eq_error_iff hs x).mpr hx⟩⟩

end FluentBuilder
