import FluentBuilder.Proofs.Rule.Fault
import FluentBuilder.Proofs.Spec.Assembly

/-! When the derivation of a builder ends with a fault in place of a generation error: when the
first constraint that does not resolve is one that escapes. -/

namespace FluentBuilder

/-- Where a derivation fails: in the structure, at the names, or at the first field that does not
resolve. -/
theorem assemble_eq_error_iff (c : ClassDescriptor) (x : Failure) :
    assemble c = .error x ↔ selectedFields c = .error x ∨ c.checkStructure = .ok () ∧
      (checkNames c c.qualifyingFields = .error x ∨ checkNames c c.qualifyingFields = .ok () ∧
        c.qualifyingFields.mapM (resolveField c.name) = .error x) := by
  unfold assemble
  rw [bind_eq_error_iff]
  refine or_congr_right ⟨?_, ?_⟩
  · rintro ⟨fs, hfs, hrest⟩
    obtain ⟨hc, rfl⟩ := (selectedFields_eq_ok_iff c fs).mp hfs
    refine ⟨hc, ?_⟩
    rcases (bind_eq_error_iff ..).mp hrest with hn | ⟨⟨⟩, hn, hr⟩
    · exact .inl hn
    · rcases (bind_eq_error_iff ..).mp hr with hf | ⟨_, _, hp⟩
      · exact .inr ⟨hn, hf⟩
      · cases hp
  · rintro ⟨hc, hrest⟩
    refine ⟨_, (selectedFields_eq_ok_iff ..).mpr ⟨hc, rfl⟩, (bind_eq_error_iff ..).mpr ?_⟩
    rcases hrest with hn | ⟨hn, hf⟩
    · exact .inl hn
    · exact .inr ⟨(), hn, (bind_eq_error_iff ..).mpr (.inl hf)⟩

theorem selectedFields_ne_fault (c : ClassDescriptor) (e : Fault) :
    selectedFields c ≠ .error (.fault e) := by
  unfold selectedFields
  cases c.selectFields <;> simp [Except.mapError]

theorem checkNames_ne_fault (c : ClassDescriptor) (fs : List FieldDescriptor) (e : Fault) :
    checkNames c fs ≠ .error (.fault e) := by
  unfold checkNames
  cases checkCollisions c fs <;> simp [Except.mapError]

theorem exists_type_of_checkStructure {c : ClassDescriptor} (h : c.checkStructure = .ok ())
    {f : FieldDescriptor} (hf : f ∈ c.qualifyingFields) : ∃ t, f.type = some t := by
  obtain ⟨hall, -⟩ := (checkFields_eq_ok_iff ..).mp (c.checkStructure_eq_ok_iff.mp h).2.2
  obtain ⟨-, -, htype⟩ := hall f (List.mem_of_mem_filter hf)
  obtain ⟨t, ht, -⟩ := (checkFieldType_eq_ok_iff ..).mp htype
  exact ⟨t, ht⟩

theorem resolveField_eq_error_iff (owner : String) {f : FieldDescriptor} {t : TypeRef}
    (ht : f.type = some t) (x : Failure) :
    resolveField owner f = .error x ↔ resolveConstraints owner f = .error x := by
  unfold resolveField FieldDescriptor.typeFor
  cases hr : resolveConstraints owner f with
  | error e => simp [bind, Except.bind]
  | ok rules => simp [bind, Except.bind, ht, pure, Except.pure]

theorem exists_resolved_iff (owner : String) {f : FieldDescriptor} {t : TypeRef}
    (ht : f.type = some t) :
    (∃ r, resolveField owner f = .ok r) ↔ ∃ rules, resolveConstraints owner f = .ok rules := by
  constructor
  · rintro ⟨r, hr⟩
    exact ⟨r.rules, ((resolveField_eq_ok_iff ..).mp hr).2.2⟩
  · rintro ⟨rules, hr⟩
    exact ⟨⟨f.name, t, rules⟩, (resolveField_eq_ok_iff ..).mpr ⟨rfl, ht, hr⟩⟩

/-- A derivation ends with a fault exactly if the structure and the names are sound and the first
constraint that does not resolve escapes. Otherwise it gives a builder, or a generation error. -/
theorem assemble_eq_fault_iff (c : ClassDescriptor) (e : Fault) :
    assemble c = .error (.fault e) ↔
      c.checkStructure = .ok () ∧ checkNames c c.qualifyingFields = .ok () ∧
        ∃ fs f gs t ks k ls, c.qualifyingFields = fs ++ f :: gs ∧ f.type = some t ∧
          f.constraints = ks ++ k :: ls ∧
          (∀ g ∈ fs, ∃ rules, resolveConstraints c.name g = .ok rules) ∧
          (∀ j ∈ ks, ∃ r, resolveConstraint c.name f j = .ok r) ∧ k.Escapes t e := by
  rw [assemble_eq_error_iff]
  constructor
  -- Structure and names are refused by generation errors only.
  · rintro (hs | ⟨hc, hn | ⟨hn, hf⟩⟩)
    · exact absurd hs (selectedFields_ne_fault c e)
    · exact absurd hn (checkNames_ne_fault c _ e)
    · obtain ⟨fs, f, gs, hsplit, hfs, hf⟩ := (mapM_eq_error_iff ..).mp hf
      have htyped (g : FieldDescriptor) (hg : g ∈ fs ++ f :: gs) : ∃ t, g.type = some t :=
        exists_type_of_checkStructure hc (hsplit ▸ hg)
      obtain ⟨t, ht⟩ := htyped f (by simp)
      rw [resolveField_eq_error_iff _ ht] at hf
      obtain ⟨ks, k, ls, hks, hok, hk⟩ := (mapM_eq_error_iff ..).mp hf
      refine ⟨hc, hn, fs, f, gs, t, ks, k, ls, hsplit, ht, hks, fun g hg => ?_, hok, ?_⟩
      · obtain ⟨u, hu⟩ := htyped g (List.mem_append_left _ hg)
        exact (exists_resolved_iff _ hu).mp (hfs g hg)
      · exact (resolveConstraint_eq_fault_iff _ ht k e).mp hk
  · rintro ⟨hc, hn, fs, f, gs, t, ks, k, ls, hsplit, ht, hks, hfs, hok, hk⟩
    refine .inr ⟨hc, .inr ⟨hn, (mapM_eq_error_iff ..).mpr ⟨fs, f, gs, hsplit, fun g hg => ?_, ?_⟩⟩⟩
    · obtain ⟨u, hu⟩ := exists_type_of_checkStructure hc (f := g) (by simp [hsplit, hg])
      exact (exists_resolved_iff _ hu).mpr (hfs g hg)
    · rw [resolveField_eq_error_iff _ ht]
      exact (mapM_eq_error_iff ..).mpr
        ⟨ks, k, ls, hks, hok, (resolveConstraint_eq_fault_iff _ ht k e).mpr hk⟩

/-- The minimum is the least power of two that is beyond the floating-point range. -/
def beyondFloats : ClassDescriptor where
  name := "P"
  fields := [
    { name := "x", type := some { name := "int", kind := .scalar },
      constraints := [.range { min := .int (2 ^ 1024) }] }]

theorem assemble_beyondFloats : assemble beyondFloats = .error (.fault .integerTooLarge) := by
  have h : (match assemble beyondFloats with
      | .error (.fault .integerTooLarge) => true
      | _ => false) = true := by decide +kernel
  split at h
  · rename_i hfault
    exact hfault
  · cases h

end FluentBuilder
