import FluentBuilder.Proofs.Builder.History

/-! Reading fields as attributes. A field of an accepted builder is hidden by no common attribute,
but the setter of another field may have its name. -/

namespace FluentBuilder

variable {c : ClassDescriptor} {fields : List ResolvedField} {t : BuilderType}

theorem isReserved_eq_false_iff (name : String) :
    isReserved name = false ↔ name ∉ reservedNames ∧ name.startsWith "_" = false := by
  simp [isReserved]

/-- The common attributes have reserved names. -/
theorem commonAttribute?_eq_none {name : String} (h : isReserved name = false) (s : BuilderSpec)
    (b : Builder) : s.commonAttribute? b name = none := by
  obtain ⟨hmem, hunder⟩ := (isReserved_eq_false_iff name).mp h
  have hne {other : String} (ho : other ∈ reservedNames ∨ other.startsWith "_" = true) :
      name ≠ other := by
    rintro rfl
    obtain ho | ho := ho
    · exact hmem ho
    · rw [hunder] at ho
      cases ho
  unfold BuilderSpec.commonAttribute?
  rw [if_neg (hne (.inl (by simp [reservedNames]))), if_neg (hne (.inl (by simp [reservedNames]))),
    if_neg (hne (.inl (by simp [reservedNames]))), if_neg (hne (.inl (by simp [reservedNames]))),
    if_neg (hne (.inl (by simp [reservedNames]))),
    if_neg (not_or.mpr ⟨hne (.inl (by simp [reservedNames])), hne (.inr (by simp [flagName]))⟩),
    if_neg (hne (.inr (by simp [storeName]))), if_neg (hne (.inr (by simp [ensureOpenName])))]

namespace BuilderSpec

variable {s : BuilderSpec} {name : String} (b : Builder)

/-- A setter hides whatever else has its name. -/
theorem read_on_of_setter {m : Method} (hm : s.setters.find? (·.name == name) = some m) :
    (s.read name).on b = (.ok (.method m.name), b) := by
  rw [read_on]
  unfold attribute?
  rw [hm]
  rfl

theorem read_on_of_key {b : Builder} (hn : s.setters.find? (·.name == name) = none)
    (hr : isReserved name = false) (hk : name ∈ b.keys) :
    (s.read name).on b = (.ok (.value (b.get name)), b) := by
  have hunder : name.startsWith "_" = false := ((isReserved_eq_false_iff name).mp hr).2
  rw [read_on]
  unfold attribute?
  rw [hn]
  simp only [commonAttribute?_eq_none hr s b, hunder, Builder.lookup_eq_get hk]
  rfl

end BuilderSpec

/-- A field reads as the value that is stored for it, exactly if no field has a setter of its name.
If one has, the field reads as that setter. -/
theorem read_agrees_iff {s : BuilderSpec} {handoff : Work Result} (hs : assemble c = .ok s)
    (ht : materialize s handoff = .ok t) {past : List Event} {b : Builder}
    (hr : t.Run (.new s) past b) {f : FieldSpec} (hf : f ∈ s.fields) :
    b.values.lookup f.name = some (b.get f.name) ∧
      (t.call valuesName []).on b = (.ok (.value b.dict), b) ∧
      ((t.spec.read f.name).on b = (.ok (.value (b.get f.name)), b) ↔
        ∀ g ∈ s.fields, setterName g.name ≠ f.name) ∧
      ((∃ g ∈ s.fields, setterName g.name = f.name) →
        (t.spec.read f.name).on b = (.ok (.method f.name), b)) := by
  obtain ⟨fields, h, rfl⟩ := Resolution.of_assemble hs
  obtain ⟨hres, rfl⟩ := (materialize_eq_ok_iff ..).mp ht
  have hrec := Recorded.of_run h rfl hr
  have hkey : f.name ∈ b.keys := by
    rw [hrec.keys_eq, h.names_eq]
    obtain ⟨r, hr, rfl⟩ := List.mem_map.mp hf
    exact List.mem_map_of_mem hr
  have hmethod : (∃ g ∈ (specOf c fields).fields, setterName g.name = f.name) →
      ((specOf c fields).read f.name).on b = (.ok (.method f.name), b) := by
    rintro ⟨g, hg, hn⟩
    obtain ⟨r, hr, rfl⟩ := List.mem_map.mp hg
    rw [← hn]
    exact BuilderSpec.read_on_of_setter b (h.find?_setter hr)
  refine ⟨Builder.lookup_eq_get hkey, ?_, ⟨fun hread g hg hn => ?_, fun hall => ?_⟩, hmethod⟩
  · rw [BuilderType.call_on_of_some _ _ (Resolution.attribute?_values b)]
    rfl
  · have hm := hread.symm.trans (hmethod ⟨g, hg, hn⟩)
    cases hm
  · have hnone : (specOf c fields).setters.find? (·.name == f.name) = none := by
      rw [List.find?_eq_none]
      intro m hm
      obtain ⟨r, hr, rfl⟩ := List.mem_map.mp hm
      have hg := hall ⟨r.name, r.type⟩ (List.mem_map_of_mem hr)
      simpa [ResolvedField.setter] using hg
    exact BuilderSpec.read_on_of_key hnone (hres f hf) hkey

theorem read_agrees_iff_parcel :
    ∃ s t past b f, assemble parcel = .ok s ∧ materialize s byFields = .ok t ∧
      t.Run (.new s) past b ∧ f ∈ s.fields ∧ f.name = "labels" ∧
      (t.spec.read f.name).on b = (.ok (.value (.list [.text "a"])), b) := by
  have hy : parcel.yields byFields (fun t => (∃ f ∈ t.spec.fields, f.name = "labels") ∧
      (t.afterAll (.new t.spec) parcelActions).get "labels" = .list [.text "a"]) = true := by
    decide +kernel
  obtain ⟨_, t, hs, ht, rfl, hc, hr⟩ := ClassDescriptor.exists_run_of_yields hy parcelActions
  obtain ⟨⟨f, hf, hn⟩, hget⟩ := of_decide_eq_true hc
  have hne : ∀ g ∈ t.spec.fields, setterName g.name ≠ f.name := by
    intro g _
    rw [hn]
    exact setterName_ne (by decide) g.name
  refine ⟨t.spec, t, _, _, f, hs, ht, hr, hf, hn, ?_⟩
  rw [(read_agrees_iff hs ht hr hf).2.2.1.mpr hne, hn, hget]

/-- The setter of the first field has the name of the second. -/
def shadowed : ClassDescriptor where
  name := "P"
  fields := [{ name := "x", type := some { name := "int", kind := .scalar } },
    { name := "withX", type := some { name := "int", kind := .scalar } }]

theorem shadowed_not_read :
    ∃ s t past b f, assemble shadowed = .ok s ∧ materialize s byFields = .ok t ∧
      t.Run (.new s) past b ∧ f ∈ s.fields ∧
      (t.spec.read f.name).on b ≠ (.ok (.value (b.get f.name)), b) := by
  have hy : shadowed.yields byFields (fun t => ∃ f ∈ t.spec.fields,
      ((t.spec.read f.name).on (.new t.spec)).1.toOption = some (.method "withX")) = true := by
    decide +kernel
  obtain ⟨_, t, hs, ht, rfl, hc, hr⟩ := ClassDescriptor.exists_run_of_yields hy []
  obtain ⟨f, hf, hread⟩ := of_decide_eq_true hc
  refine ⟨t.spec, t, [], .new t.spec, f, hs, ht, hr, hf, fun he => ?_⟩
  rw [he] at hread
  cases hread

end FluentBuilder
