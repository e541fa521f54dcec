import FluentBuilder.Proofs.Builder.Member
import FluentBuilder.Proofs.Spec.Setters

/-! Members do not clash: the methods of a derived builder have distinct names, and in the type made
of it each setter stands under its own name, and the members that all builders share under theirs. -/

namespace FluentBuilder

/-- On a builder of the type the name of the method stands for that method, and a call by this name
puts what it takes into the field, after the method's rules. -/
structure BuilderType.SetsBy (t : BuilderType) (b : Builder) (f : FieldDescriptor) (m : Method) :
    Prop where
  member : t.spec.attribute? b m.name = some (.setter m)
  qualified : t.qualifiedName m.name = .ok (t.spec.qualified m)
  call : ∀ arguments v, f.argument? arguments = some v → (t.call m.name arguments).on b =
    (t.spec.assign f.name v m.rules >>= fun _ => return .itself).on b

/-- On a builder of the type the names that all builders share stand for what all builders share. -/
structure BuilderType.Shares (t : BuilderType) (b : Builder) : Prop where
  create : t.spec.attribute? b createName = some .create
  build : t.spec.attribute? b buildName = some .build
  validate : t.spec.attribute? b validateName = some .validate
  values : t.spec.attribute? b valuesName = some .values
  built : t.spec.attribute? b builtName = some (.value (.bool b.built))
  spec : t.spec.attribute? b specName = some (.description t.spec)
  qualified : ∀ name ∈ [createName, buildName, validateName, valuesName],
    t.qualifiedName name = .ok (sharedTypeName ++ "." ++ name)

variable {c : ClassDescriptor} {fields : List ResolvedField} {t : BuilderType}

namespace Resolution

theorem methodNames_nodup (h : Resolution c fields) :
    ((specOf c fields).methods.map (·.name)).Nodup := by
  have hnames : (specOf c fields).methods.map (·.name) =
      builderName :: createName ::
        ((fields.map fun r => setterName r.name) ++ [buildName, validateName]) := by
    simp [BuilderSpec.methods, specOf, ResolvedField.setter]
  have hnew {name : String} (hw : name.toList.head? ≠ some 'w') :
      name ∉ fields.map fun r => setterName r.name := by
    intro hm
    obtain ⟨r, -, he⟩ := List.mem_map.mp hm
    exact setterName_ne hw r.name he
  rw [hnames, List.nodup_cons, List.nodup_cons, List.nodup_append]
  refine ⟨?_, ?_, h.setterNames_nodup, by decide, ?_⟩
  · rw [List.mem_cons, List.mem_append, not_or, not_or]
    exact ⟨by decide, hnew (by decide), by decide⟩
  · rw [List.mem_append, not_or]
    exact ⟨hnew (by decide), by decide⟩
  · rintro setter hs name hn rfl
    rcases List.mem_pair.mp hn with rfl | rfl
    · exact hnew (by decide) hs
    · exact hnew (by decide) hs

theorem shares (ht : t.spec = specOf c fields) (b : Builder) : t.Shares b := by
  refine ⟨?_, ?_, ?_, ?_, ?_, ?_, fun name hn => ?_⟩
  · rw [ht, attribute?_create]
  · rw [ht, attribute?_build]
  · rw [ht, attribute?_validate]
  · rw [ht, attribute?_values]
  · rw [ht, attribute?_built]
  · rw [ht, attribute?_spec]
  · have hw : name.toList.head? ≠ some 'w' := by
      revert name
      decide
    unfold BuilderType.qualifiedName
    rw [ht, find?_setters_eq_none hw]
    simp only [List.mem_cons, List.not_mem_nil, or_false] at hn
    rcases hn with rfl | rfl | rfl | rfl <;> rfl

theorem setsBy (h : Resolution c fields) (ht : t.spec = specOf c fields) {f : FieldDescriptor}
    {r : ResolvedField} (hr : r ∈ fields) (hf : resolveField c.name f = .ok r) (b : Builder) :
    t.SetsBy b f (r.setter c.builderReference) := by
  obtain ⟨hname, -, -⟩ := (resolveField_eq_ok_iff ..).mp hf
  refine ⟨?_, ?_, fun arguments v ha => ?_⟩
  · rw [ht]
    exact h.attribute?_setter hr b
  · have hfind : t.spec.setters.find? (·.name == (r.setter c.builderReference).name) =
        some (r.setter c.builderReference) := ht ▸ h.find?_setter hr
    unfold BuilderType.qualifiedName
    rw [hfind]
  · have hcall := call_setter_of_fit h ht hr hf b ha
    rw [hname] at hcall ⊢
    exact hcall

theorem forall₂_setsBy (h : Resolution c fields) (ht : t.spec = specOf c fields) (b : Builder) :
    List.Forall₂ (fun f m => Sets c f m ∧ t.SetsBy b f m) c.qualifyingFields t.spec.setters := by
  have hset : (specOf c fields).setters = fields.map (·.setter c.builderReference) := rfl
  rw [ht, hset, List.forall₂_map_right_iff]
  exact h.forall₂_mem.imp fun f r ⟨hr, hf⟩ => ⟨h.sets hr hf, h.setsBy ht hr hf b⟩

end Resolution

/-- The methods of a derived builder have distinct names. So in a type made of it each setter stands
under its own name and sets its own field, and what all builders share is not hidden, whatever the
names of the fields are. -/
theorem member_names_distinct {s : BuilderSpec} (hs : assemble c = .ok s) :
    (s.methods.map (·.name)).Nodup ∧
      ∀ handoff t, materialize s handoff = .ok t → ∀ b, t.spec = s ∧
        List.Forall₂ (fun f m => Sets c f m ∧ t.SetsBy b f m) c.qualifyingFields s.setters ∧
        t.Shares b := by
  obtain ⟨fields, h, rfl⟩ := Resolution.of_assemble hs
  refine ⟨h.methodNames_nodup, fun handoff t hm b => ?_⟩
  obtain ⟨-, rfl⟩ := (materialize_eq_ok_iff ..).mp hm
  exact ⟨rfl, h.forall₂_setsBy rfl b, Resolution.shares rfl b⟩

/-- The first letter of one field has two upper case letters, and the setter of this field has the
name of another field. -/
def street : ClassDescriptor where
  name := "Street"
  fields := [{ name := "ß", type := some { name := "String", kind := .text } },
    { name := "withSS", type := some { name := "String", kind := .text } }]

theorem member_names_distinct_street :
    ∃ s t, assemble street = .ok s ∧ materialize s byFields = .ok t ∧
      (s.methods.map (·.name)).Nodup ∧
      ∃ m, t.spec.attribute? (.new s) "withSS" = some (.setter m) ∧ m.assigns = some "ß" := by
  have hy : street.yields byFields (fun t =>
      t.spec.setters.map (·.name) = ["withSS", "withWithSS"]) = true := by
    decide +kernel
  obtain ⟨s, t, hs, ht, hc⟩ := ClassDescriptor.exists_of_yields hy
  obtain ⟨hnodup, hall⟩ := member_names_distinct hs
  obtain ⟨rfl, hsets, -⟩ := hall byFields t ht (.new s)
  obtain ⟨m, rest, ⟨hsets, hby⟩, -, hm⟩ := List.forall₂_cons_left_iff.mp hsets
  have hname : m.name = "withSS" := by
    have hnames := of_decide_eq_true hc
    rw [hm] at hnames
    exact (List.cons.inj hnames).1
  refine ⟨t.spec, t, hs, ht, hnodup, m, ?_, hsets.assigns⟩
  rw [← hname]
  exact hby.member

end FluentBuilder
