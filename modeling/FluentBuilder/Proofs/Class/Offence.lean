import FluentBuilder.Proofs.Class.Names

/-! What is wrong with a class whose checks fail: the first type parameter, the first field or the
first setter name that does not do, beside those before it. -/

namespace FluentBuilder

/-- The type parameters are names, and none comes twice. -/
def SoundParameters (ps : List String) : Prop := (∀ p ∈ ps, isName p = true) ∧ ps.Nodup

/-- The field has a type with a name, and with elements if it is an array. -/
def FieldDescriptor.Typed (f : FieldDescriptor) : Prop :=
  ∃ t, f.type = some t ∧ t.name ≠ "" ∧ (t.kind = .array → t.element ≠ none)

/-- The fields have names and types, and no name comes twice. -/
def SoundFields (fs : List FieldDescriptor) : Prop :=
  (∀ f ∈ fs, isName f.name = true ∧ f.Typed) ∧ (fs.map (·.name)).Nodup

inductive ParameterOffence (owner : String) (before : List String) (p : String) : ClassError → Prop
  | name : isName p = false → ParameterOffence owner before p (.parameterName p owner)
  | twice : isName p = true → p ∈ before →
      ParameterOffence owner before p (.parameterTwice p owner)

inductive FieldOffence (owner : String) (before : List FieldDescriptor) (f : FieldDescriptor) :
    ClassError → Prop
  | name : isName f.name = false → FieldOffence owner before f (.fieldName f.name owner)
  | twice : isName f.name = true → f.name ∈ before.map (·.name) →
      FieldOffence owner before f (.fieldTwice f.name owner)
  | untyped : isName f.name = true → f.name ∉ before.map (·.name) →
      (∀ t, f.type = some t → t.name = "") → FieldOffence owner before f (.untyped f.name owner)
  | noElement {t : TypeRef} : isName f.name = true → f.name ∉ before.map (·.name) →
      f.type = some t → t.name ≠ "" → t.kind = .array → t.element = none →
      FieldOffence owner before f (.noElement f.name owner)

theorem checkParameter_eq_error_iff {owner : String} {seen before : List String} {p : String}
    (hs : p ∈ seen ↔ p ∈ before) (e : ClassError) :
    checkParameter owner seen p = .error e ↔ ParameterOffence owner before p e := by
  unfold checkParameter
  constructor
  · intro h
    split_ifs at h with hn hm
    · obtain rfl := Except.error.inj h
      exact .name (by simpa using hn)
    · obtain rfl := Except.error.inj h
      exact .twice (by simpa using hn) (hs.mp (by simpa using hm))
  · rintro (hn | ⟨hn, hm⟩)
    · simp [hn]
    · simp [hn, hs.mpr hm]

theorem checkParameters_nil_eq_ok_iff (owner : String) (ps : List String) :
    checkParameters owner [] ps = .ok () ↔ SoundParameters ps := by
  rw [checkParameters_eq_ok_iff]
  simp [SoundParameters]

theorem checkFields_nil_eq_ok_iff (owner : String) (fs : List FieldDescriptor) :
    checkFields owner [] fs = .ok () ↔ SoundFields fs := by
  rw [checkFields_eq_ok_iff]
  simp [SoundFields, FieldDescriptor.Typed, checkFieldType_eq_ok_iff]

theorem checkParameters_eq_error_iff (owner : String) (ps : List String) (e : ClassError) :
    checkParameters owner [] ps = .error e ↔
      ∃ before p after, ps = before ++ p :: after ∧ SoundParameters before ∧
        ParameterOffence owner before p e := by
  rw [checkParameters_eq_scan, scan_eq_error_iff]
  refine exists_congr fun before => exists_congr fun p => exists_congr fun after => ?_
  have hs : p ∈ before.foldl (fun seen p => p :: seen) [] ↔ p ∈ before := by simp
  rw [← checkParameters_eq_scan, checkParameters_nil_eq_ok_iff, checkParameter_eq_error_iff hs]

theorem checkFieldType_eq_error_iff (owner : String) (f : FieldDescriptor) (e : ClassError) :
    checkFieldType owner f = .error e ↔
      (∀ t, f.type = some t → t.name = "") ∧ e = .untyped f.name owner ∨
        ∃ t, f.type = some t ∧ t.name ≠ "" ∧ t.kind = .array ∧ t.element = none ∧
          e = .noElement f.name owner := by
  unfold checkFieldType
  cases hf : f.type with
  | none =>
    constructor
    · intro h
      exact .inl ⟨nofun, (Except.error.inj h).symm⟩
    · rintro (⟨-, rfl⟩ | ⟨t, ht, -⟩)
      · rfl
      · cases ht
  | some t =>
    dsimp only
    split_ifs with hn ha
    · constructor
      · intro h
        exact .inl ⟨fun u hu => Option.some.inj hu ▸ hn, (Except.error.inj h).symm⟩
      · rintro (⟨-, rfl⟩ | ⟨u, hu, hne, -⟩)
        · rfl
        · exact absurd hn (Option.some.inj hu ▸ hne)
    · constructor
      · intro h
        exact .inr ⟨t, rfl, hn, ha.1, ha.2, (Except.error.inj h).symm⟩
      · rintro (⟨hu, -⟩ | ⟨u, -, -, -, -, rfl⟩)
        · exact absurd (hu t rfl) hn
        · rfl
    · constructor
      · intro h
        cases h
      · rintro (⟨hu, -⟩ | ⟨u, hu, -, hk, he, -⟩)
        · exact absurd (hu t rfl) hn
        · obtain rfl := Option.some.inj hu
          exact absurd ⟨hk, he⟩ ha

theorem checkField_eq_error_iff {owner : String} {seen : List String}
    {before : List FieldDescriptor} {f : FieldDescriptor}
    (hs : f.name ∈ seen ↔ f.name ∈ before.map (·.name)) (e : ClassError) :
    checkField owner seen f = .error e ↔ FieldOffence owner before f e := by
  unfold checkField
  constructor
  · intro h
    split_ifs at h with hn hm
    · obtain rfl := Except.error.inj h
      exact .name (by simpa using hn)
    · obtain rfl := Except.error.inj h
      exact .twice (by simpa using hn) (hs.mp (by simpa using hm))
    · have hname : isName f.name = true := by simpa using hn
      have hnew : f.name ∉ before.map (·.name) := mt hs.mpr (by simpa using hm)
      rcases (checkFieldType_eq_error_iff ..).mp h with ⟨ht, rfl⟩ | ⟨t, ht, hne, hk, he, rfl⟩
      · exact .untyped hname hnew ht
      · exact .noElement hname hnew ht hne hk he
  · rintro (hn | ⟨hn, hm⟩ | ⟨hn, hm, ht⟩ | ⟨hn, hm, ht, hne, hk, he⟩)
    · simp [hn]
    · simp [hn, hs.mpr hm]
    · have htype := (checkFieldType_eq_error_iff owner f _).mpr (.inl ⟨ht, rfl⟩)
      simp [hn, mt hs.mp hm, htype]
    · have htype := (checkFieldType_eq_error_iff owner f _).mpr (.inr ⟨_, ht, hne, hk, he, rfl⟩)
      simp [hn, mt hs.mp hm, htype]

theorem checkFields_eq_error_iff (owner : String) (fs : List FieldDescriptor) (e : ClassError) :
    checkFields owner [] fs = .error e ↔
      ∃ before f after, fs = before ++ f :: after ∧ SoundFields before ∧
        FieldOffence owner before f e := by
  rw [checkFields_eq_scan, scan_eq_error_iff]
  refine exists_congr fun before => exists_congr fun f => exists_congr fun after => ?_
  -- What has been seen are the names before, last one first.
  have hs : f.name ∈ before.foldl (fun seen f => f.name :: seen) [] ↔
      f.name ∈ before.map (·.name) := by simp
  rw [← checkFields_eq_scan, checkFields_nil_eq_ok_iff, checkField_eq_error_iff hs]

def checkSetter (earlier : List (String × String)) (field : String) : Except NameCollision Unit :=
  match earlier.lookup (setterName field) with
  | some other =>
    .error { synthesized := setterOf field,
             existing := setterName field ++ " (from field '" ++ other ++ "')" }
  | none => .ok ()

theorem checkSetters_eq_scan (earlier : List (String × String)) (names : List String) :
    checkSetters earlier names =
      scan checkSetter (fun earlier n => earlier ++ [(setterName n, n)]) earlier names := by
  induction names generalizing earlier with
  | nil => rfl
  | cons n names ih =>
    rw [checkSetters, scan, ← ih, checkSetter]
    cases earlier.lookup (setterName n) <;> rfl

theorem foldl_setters (before : List String) (earlier : List (String × String)) :
    before.foldl (fun earlier n => earlier ++ [(setterName n, n)]) earlier =
      earlier ++ before.map fun n => (setterName n, n) := by
  induction before generalizing earlier with
  | nil => simp
  | cons n before ih =>
    rw [List.foldl_cons, ih, List.map_cons, List.append_assoc, List.singleton_append]

theorem lookup_setters_eq_some_iff {before : List String} (hd : (before.map setterName).Nodup)
    (setter other : String) :
    (before.map fun n => (setterName n, n)).lookup setter = some other ↔
      other ∈ before ∧ setterName other = setter := by
  induction before with
  | nil => simp
  | cons n before ih =>
    rw [List.map_cons, List.nodup_cons] at hd
    rw [List.map_cons, List.lookup_cons, List.mem_cons]
    by_cases hn : setterName n = setter
    · subst hn
      simp only [beq_self_eq_true, Option.some.injEq]
      constructor
      · rintro rfl
        exact ⟨.inl rfl, rfl⟩
      · rintro ⟨rfl | hm, ho⟩
        · rfl
        · exact absurd (List.mem_map.mpr ⟨other, hm, ho⟩) hd.1
    · have hb : (setter == setterName n) = false := by simpa using Ne.symm hn
      rw [hb, ih hd.2]
      constructor
      · rintro ⟨hm, ho⟩
        exact ⟨.inr hm, ho⟩
      · rintro ⟨rfl | hm, ho⟩
        · exact absurd ho hn
        · exact ⟨hm, ho⟩

/-- The first name whose setter name an earlier one has decides, and both are told. -/
theorem checkSetters_eq_error_iff (names : List String) (x : NameCollision) :
    checkSetters [] names = .error x ↔
      ∃ before field after, names = before ++ field :: after ∧ (before.map setterName).Nodup ∧
        ∃ other ∈ before, setterName other = setterName field ∧
          x = { synthesized := setterOf field, existing := setterOf other } := by
  rw [checkSetters_eq_scan, scan_eq_error_iff]
  refine exists_congr fun before => exists_congr fun field => exists_congr fun after => ?_
  have hok := checkSetters_eq_ok_iff [] before
  simp only [List.lookup_nil, implies_true, true_and] at hok
  rw [← checkSetters_eq_scan, hok, foldl_setters, List.nil_append, checkSetter]
  refine and_congr_right fun _ => and_congr_right fun hd => ?_
  constructor
  · intro h
    split at h
    · rename_i other hl
      obtain ⟨hm, ho⟩ := (lookup_setters_eq_some_iff hd ..).mp hl
      refine ⟨other, hm, ho, ?_⟩
      rw [← Except.error.inj h, setterOf, setterOf, ho]
    · cases h
  · rintro ⟨other, hm, ho, rfl⟩
    rw [(lookup_setters_eq_some_iff hd _ other).mpr ⟨hm, ho⟩, ← ho]
    rfl

namespace ClassDescriptor

variable (c : ClassDescriptor)

/-- The class, its type parameters and all its fields are declared as they must be. -/
structure SoundStructure : Prop where
  name : isName c.name = true
  parameters : SoundParameters c.typeParameters
  fields : SoundFields c.fields

/-- The first thing wrong with the structure of a class: its name, else a type parameter, else a
field, whether it takes part in the builder or not. -/
inductive StructureOffence : ClassError → Prop
  | className : isName c.name = false → StructureOffence (.className c.name)
  | parameter {before : List String} {p : String} {after : List String} {e : ClassError} :
      isName c.name = true → c.typeParameters = before ++ p :: after → SoundParameters before →
      ParameterOffence c.name before p e → StructureOffence e
  | field {before : List FieldDescriptor} {f : FieldDescriptor} {after : List FieldDescriptor}
      {e : ClassError} :
      isName c.name = true → SoundParameters c.typeParameters → c.fields = before ++ f :: after →
      SoundFields before → FieldOffence c.name before f e → StructureOffence e

theorem checkStructure_eq_ok_iff_sound : c.checkStructure = .ok () ↔ c.SoundStructure := by
  rw [checkStructure_eq_ok_iff, checkParameters_nil_eq_ok_iff, checkFields_nil_eq_ok_iff]
  constructor
  · rintro ⟨hn, hp, hf⟩
    exact ⟨hn, hp, hf⟩
  · rintro ⟨hn, hp, hf⟩
    exact ⟨hn, hp, hf⟩

theorem checkStructure_eq_error_iff (e : ClassError) :
    c.checkStructure = .error e ↔ c.StructureOffence e := by
  cases hn : isName c.name with
  | false =>
    have hc : c.checkStructure = .error (.className c.name) := by
      unfold checkStructure
      rw [hn]
      rfl
    rw [hc]
    constructor
    · intro h
      obtain rfl := Except.error.inj h
      exact .className hn
    · rintro (- | ⟨hname, -⟩ | ⟨hname, -⟩)
      · rfl
      · exact absurd hname (by simp [hn])
      · exact absurd hname (by simp [hn])
  | true =>
    have hc : c.checkStructure = checkParameters c.name [] c.typeParameters >>= fun _ =>
        checkFields c.name [] c.fields := by
      unfold checkStructure
      rw [hn]
      rfl
    rw [hc, bind_unit_eq_error_iff, checkParameters_eq_error_iff, checkParameters_nil_eq_ok_iff,
      checkFields_eq_error_iff]
    constructor
    · rintro (⟨before, p, after, hs, hb, ho⟩ | ⟨hp, before, f, after, hs, hb, ho⟩)
      · exact .parameter hn hs hb ho
      · exact .field hn hp hs hb ho
    · rintro (hname | ⟨-, hs, hb, ho⟩ | ⟨-, hp, hs, hb, ho⟩)
      · exact absurd hname (by simp [hn])
      · exact .inl ⟨_, _, _, hs, hb, ho⟩
      · exact .inr ⟨hp, _, _, _, hs, hb, ho⟩

/-- The names made for the builder are new and distinct. -/
structure SoundNames : Prop where
  member : builderName ∉ c.memberNames
  className : c.name ≠ builderName
  setters : (c.qualifyingFields.map fun f => setterName f.name).Nodup

/-- The first clash of a name made for the builder: with a member, with the class, else the setter
name of a field with that of an earlier one. -/
inductive NameOffence : NameCollision → Prop
  | member : builderName ∈ c.memberNames →
      NameOffence { synthesized := builderName, existing := c.name ++ "." ++ builderName }
  | className : builderName ∉ c.memberNames → c.name = builderName →
      NameOffence { synthesized := c.name ++ "." ++ builderName, existing := c.name }
  | setter {before : List FieldDescriptor} {f : FieldDescriptor} {after : List FieldDescriptor}
      {g : FieldDescriptor} :
      builderName ∉ c.memberNames → c.name ≠ builderName →
      c.qualifyingFields = before ++ f :: after →
      (before.map fun f => setterName f.name).Nodup → g ∈ before →
      setterName g.name = setterName f.name →
      NameOffence { synthesized := setterOf f.name, existing := setterOf g.name }

theorem exists_map_name_split_iff (fs : List FieldDescriptor) (x : NameCollision) :
    (∃ before field after, fs.map (·.name) = before ++ field :: after ∧
        (before.map setterName).Nodup ∧ ∃ other ∈ before, setterName other = setterName field ∧
          x = { synthesized := setterOf field, existing := setterOf other }) ↔
      ∃ before f after, fs = before ++ f :: after ∧
        (before.map fun f => setterName f.name).Nodup ∧
          ∃ g ∈ before, setterName g.name = setterName f.name ∧
            x = { synthesized := setterOf f.name, existing := setterOf g.name } := by
  constructor
  · rintro ⟨names, field, rest, hs, hd, other, hm, ho, rfl⟩
    obtain ⟨before, tail, rfl, rfl, htail⟩ := List.map_eq_append_iff.mp hs
    obtain ⟨f, after, rfl, rfl, rfl⟩ := List.map_eq_cons_iff.mp htail
    obtain ⟨g, hg, rfl⟩ := List.mem_map.mp hm
    rw [List.map_map] at hd
    exact ⟨before, f, after, rfl, hd, g, hg, ho, rfl⟩
  · rintro ⟨before, f, after, rfl, hd, g, hg, ho, rfl⟩
    refine ⟨before.map (·.name), f.name, after.map (·.name), by simp, ?_, g.name,
      List.mem_map_of_mem hg, ho, rfl⟩
    rw [List.map_map]
    exact hd

theorem checkCollisions_eq_error_iff (x : NameCollision) :
    checkCollisions c c.qualifyingFields = .error x ↔ c.NameOffence x := by
  unfold checkCollisions
  by_cases hm : builderName ∈ c.memberNames
  · rw [if_pos (by simpa using hm)]
    constructor
    · intro h
      obtain rfl := Except.error.inj h
      exact .member hm
    · rintro (- | ⟨hnot, -⟩ | ⟨hnot, -⟩)
      · rfl
      · exact absurd hm hnot
      · exact absurd hm hnot
  · rw [if_neg (by simpa using hm)]
    by_cases hc : c.name = builderName
    · rw [if_pos hc]
      constructor
      · intro h
        obtain rfl := Except.error.inj h
        exact .className hm hc
      · rintro (hin | - | ⟨-, hne, -⟩)
        · exact absurd hin hm
        · rfl
        · exact absurd hc hne
    · rw [if_neg hc, checkSetters_eq_error_iff, exists_map_name_split_iff]
      constructor
      · rintro ⟨before, f, after, hs, hd, g, hg, ho, rfl⟩
        exact .setter hm hc hs hd hg ho
      · rintro (hin | ⟨-, he⟩ | ⟨-, -, hs, hd, hg, ho⟩)
        · exact absurd hin hm
        · exact absurd he hc
        · exact ⟨_, _, _, hs, hd, _, hg, ho, rfl⟩

end ClassDescriptor

end FluentBuilder
