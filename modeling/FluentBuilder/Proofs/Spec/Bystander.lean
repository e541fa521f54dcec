import FluentBuilder.Proofs.Class.Offence
import FluentBuilder.Proofs.Spec.Equality
import FluentBuilder.Proofs.Spec.Setters
import FluentBuilder.Spec.Documentation

/-! Fields that take no part. They must be sound like the others, but apart from that they leave no
trace: without them, or with other constraints on them, the builder and the comments of its setters
are the same. -/

namespace FluentBuilder

/-- The second list is the first one, where of the fields that take no part some are left out, and
others have other constraints. -/
inductive Disturbed : List FieldDescriptor → List FieldDescriptor → Prop
  | nil : Disturbed [] []
  | keep (f : FieldDescriptor) {fs gs : List FieldDescriptor} :
      Disturbed fs gs → Disturbed (f :: fs) (f :: gs)
  | drop {f : FieldDescriptor} {fs gs : List FieldDescriptor} :
      f.qualifies = false → Disturbed fs gs → Disturbed (f :: fs) gs
  | recast {f : FieldDescriptor} (constraints : List Constraint) {fs gs : List FieldDescriptor} :
      f.qualifies = false → Disturbed fs gs → Disturbed (f :: fs) ({ f with constraints } :: gs)

namespace Disturbed

variable {fs gs : List FieldDescriptor}

theorem filter_eq (h : Disturbed fs gs) :
    gs.filter (·.qualifies) = fs.filter (·.qualifies) := by
  induction h with
  | nil => rfl
  | keep f _ ih => rw [List.filter_cons, List.filter_cons, ih]
  | drop hf _ ih => rw [List.filter_cons_of_neg (by simp [hf]), ih]
  | @recast f constraints fs gs hf _ ih =>
    -- The constraints of a field do not decide whether it takes part.
    have hg : { f with constraints }.qualifies = false := hf
    rw [List.filter_cons_of_neg (by simp [hg]), List.filter_cons_of_neg (by simp [hf]), ih]

theorem names_sublist (h : Disturbed fs gs) :
    (gs.map (·.name)).Sublist (fs.map (·.name)) := by
  induction h with
  | nil => exact .refl _
  | keep f _ ih => exact ih.cons_cons f.name
  | drop _ _ ih => exact ih.cons _
  | recast _ _ _ ih => exact ih.cons_cons _

theorem exists_of_mem (h : Disturbed fs gs) {g : FieldDescriptor} (hg : g ∈ gs) :
    ∃ f ∈ fs, f.name = g.name ∧ f.type = g.type := by
  induction h with
  | nil => cases hg
  | keep f _ ih =>
    rcases List.mem_cons.mp hg with rfl | hg
    · exact ⟨g, List.mem_cons_self, rfl, rfl⟩
    · obtain ⟨f', hf, hsame⟩ := ih hg
      exact ⟨f', List.mem_cons_of_mem _ hf, hsame⟩
  | drop _ _ ih =>
    obtain ⟨f', hf, hsame⟩ := ih hg
    exact ⟨f', List.mem_cons_of_mem _ hf, hsame⟩
  | @recast f constraints _ _ _ _ ih =>
    rcases List.mem_cons.mp hg with rfl | hg
    · exact ⟨f, List.mem_cons_self, rfl, rfl⟩
    · obtain ⟨f', hf, hsame⟩ := ih hg
      exact ⟨f', List.mem_cons_of_mem _ hf, hsame⟩

theorem soundFields (h : Disturbed fs gs) (hs : SoundFields fs) : SoundFields gs := by
  obtain ⟨hall, hnodup⟩ := hs
  refine ⟨fun g hg => ?_, hnodup.sublist h.names_sublist⟩
  obtain ⟨f, hf, hname, htype⟩ := h.exists_of_mem hg
  obtain ⟨hn, t, ht, hrest⟩ := hall f hf
  exact ⟨hname ▸ hn, t, htype ▸ ht, hrest⟩

end Disturbed

variable {c : ClassDescriptor} {s : BuilderSpec}

theorem soundFields_of_assemble (h : assemble c = .ok s) : SoundFields c.fields := by
  obtain ⟨hc, -⟩ := (assemble_eq_ok_iff c s).mp h
  exact (c.checkStructure_eq_ok_iff_sound.mp hc).fields

namespace Disturbed

variable {fs : List FieldDescriptor}

theorem assemble_eq (hd : Disturbed c.fields fs) (h : assemble c = .ok s) :
    assemble { c with fields := fs } = .ok s := by
  obtain ⟨hc, hn, fields, hf, rfl⟩ := (assemble_eq_ok_iff c s).mp h
  obtain ⟨hname, hparameters, hfields⟩ := c.checkStructure_eq_ok_iff_sound.mp hc
  have hq : { c with fields := fs }.qualifyingFields = c.qualifyingFields := hd.filter_eq
  rw [assemble_eq_ok_iff, hq]
  refine ⟨?_, hn, fields, hf, rfl⟩
  exact (ClassDescriptor.checkStructure_eq_ok_iff_sound _).mpr
    ⟨hname, hparameters, hd.soundFields hfields⟩

end Disturbed

theorem field?_name (hs : SoundFields c.fields) {f : FieldDescriptor}
    (hf : f ∈ c.qualifyingFields) : c.field? f.name = some f :=
  find?_eq_some_of_nodup hs.2 (List.mem_of_mem_filter hf)

/-- A comment can be written for a field with a type, if arrays have elements. -/
theorem exists_documentSetter {f : FieldDescriptor} {t : TypeRef} (ht : f.type = some t)
    (he : t.kind = .array → t.element ≠ none) (rules : List Rule) :
    ∃ doc, documentSetter f rules = .ok doc := by
  have hlines : ∃ lines, arrayLines t = .ok lines := by
    unfold arrayLines
    by_cases hk : t.kind = .array
    · obtain ⟨element, hs⟩ := Option.ne_none_iff_exists'.mp (he hk)
      rw [if_pos hk, hs]
      exact ⟨_, rfl⟩
    · rw [if_neg hk]
      exact ⟨_, rfl⟩
  obtain ⟨lines, hl⟩ := hlines
  unfold documentSetter documentationLines
  simp only [ht, hl]
  exact ⟨_, rfl⟩

theorem exists_field_of_setter (h : assemble c = .ok s) {m : Method} (hm : m ∈ s.setters) :
    ∃ f ∈ c.qualifyingFields, m.assigns = some f.name ∧
      ∃ doc, documentSetter f m.rules = .ok doc := by
  obtain ⟨fields, hr, rfl⟩ := Resolution.of_assemble h
  obtain ⟨r, hmem, rfl⟩ := List.mem_map.mp hm
  obtain ⟨f, hf, hfr⟩ := hr.exists_declared hmem
  obtain ⟨hname, htype, -⟩ := (resolveField_eq_ok_iff ..).mp hfr
  refine ⟨f, hf, ?_, exists_documentSetter htype (hr.element_ne_none r hmem) _⟩
  rw [hname]
  rfl

/-- Comments depend on the class only in the fields that are set. -/
theorem setterDocs_congr {d : ClassDescriptor}
    (h : ∀ m ∈ s.setters, ∀ name, m.assigns = some name → c.field? name = d.field? name) :
    setterDocs c s = setterDocs d s := by
  refine List.filterMap_congr fun m hm => ?_
  cases ha : m.assigns with
  | none => rfl
  | some name =>
    change (c.field? name).bind _ = (d.field? name).bind _
    rw [h m hm name ha]

theorem map_fst_setterDocs (h : assemble c = .ok s) :
    (setterDocs c s).map Prod.fst = s.setters.map (·.name) := by
  unfold setterDocs
  rw [List.map_filterMap, ← List.filterMap_eq_map]
  refine List.filterMap_congr fun m hm => ?_
  obtain ⟨f, hf, ha, doc, hdoc⟩ := exists_field_of_setter h hm
  simp [ha, field?_name (soundFields_of_assemble h) hf, hdoc, Except.toOption]

/-- Fields that take no part leave no trace: without them, or with other constraints on them, the
same builder is derived, rules and all, and its description with a comment for each setter is the
same. -/
theorem bystanders_leave_no_trace (h : assemble c = .ok s) {fs : List FieldDescriptor}
    (hd : Disturbed c.fields fs) :
    assemble { c with fields := fs } = .ok s ∧ s.equal s = true ∧
      describeDocumented { c with fields := fs } s = describeDocumented c s ∧
      (setterDocs c s).map Prod.fst = s.setters.map (·.name) := by
  have hdisturbed := hd.assemble_eq h
  refine ⟨hdisturbed, ?_, ?_, map_fst_setterDocs h⟩
  · obtain ⟨fields, hr, rfl⟩ := Resolution.of_assemble h
    exact hr.equal_self
  · have hdocs : setterDocs { c with fields := fs } s = setterDocs c s := by
      refine setterDocs_congr fun m hm name ha => ?_
      obtain ⟨f, hf, hassigns, -⟩ := exists_field_of_setter h hm
      obtain rfl : f.name = name := Option.some.inj (hassigns.symm.trans ha)
      have hq : { c with fields := fs }.qualifyingFields = c.qualifyingFields := hd.filter_eq
      rw [field?_name (soundFields_of_assemble h) hf,
        field?_name (soundFields_of_assemble hdisturbed) (hq ▸ hf)]
    unfold describeDocumented
    rw [hdocs]

def crateCount : FieldDescriptor where
  name := "count"
  type := some { name := "int", kind := .scalar }
  constraints := [.pattern (.text "[")]
  isStatic := true

def crateSeal : FieldDescriptor where
  name := "seal"
  type := some { name := "String", kind := .text }
  isExcluded := true

def crateThings : FieldDescriptor where
  name := "things"
  type := some (.arrayOf { name := "Thing", kind := .reference })
  constraints := [.nonEmpty]

/-- A class with two fields that take no part. The constraint on one of them could not be resolved.
-/
def crate : ClassDescriptor where
  name := "Crate"
  fields := [crateCount, crateSeal, crateThings]

/-- The seal may be given a contradiction and something that is no constraint, and the count may go.
-/
theorem bystanders_leave_no_trace_crate :
    ∃ s, assemble crate = .ok s ∧
      assemble { crate with fields :=
        [{ crateSeal with constraints := [.size (.int 2) (.int 1), .foreign (.int 0)] },
          crateThings] } = .ok s := by
  obtain ⟨s, hs⟩ := exists_eq_ok_of_toBool (x := assemble crate) (by decide +kernel)
  obtain ⟨hassemble, -⟩ := bystanders_leave_no_trace hs
    (.drop rfl (.recast [.size (.int 2) (.int 1), .foreign (.int 0)] rfl (.keep crateThings .nil)))
  exact ⟨s, hs, hassemble⟩

end FluentBuilder
