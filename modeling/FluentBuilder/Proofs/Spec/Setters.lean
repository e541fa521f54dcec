import FluentBuilder.Proofs.Spec.Assembly
import FluentBuilder.Spec.Lookup

/-! The setters of a derived builder: one for each field that takes part, in the same order, each
found by the name of its field. -/

namespace FluentBuilder

variable {c : ClassDescriptor} {fields : List ResolvedField}

theorem TypeRef.render_of_array {t element : TypeRef} (hk : t.kind = .array)
    (he : t.element = some element) : t.render = element.render ++ "[]" := by
  obtain ⟨name, kind, e, arguments⟩ := t
  obtain rfl : kind = .array := hk
  obtain rfl : e = some element := he
  rw [TypeRef.render]

/-- The method sets the field: it takes a value of its type, or the elements of an array one by one,
and runs one rule for each constraint of the field. -/
structure Sets (c : ClassDescriptor) (f : FieldDescriptor) (m : Method) : Prop where
  assigns : m.assigns = some f.name
  name : m.name = "with" ++ capitalize f.name
  parameter : ∃ p t, m.parameters = [p] ∧ f.type = some t ∧ p.name = f.name ∧
    (p.variadic = true ↔ t.kind = .array) ∧
    (p.variadic = true → p.type.render ++ "[]" = t.render) ∧ (p.variadic = false → p.type = t)
  rules : resolveConstraints c.name f = .ok m.rules
  constraints : m.rules.map (·.constraint) = f.constraints
  fieldName : ∀ r ∈ m.rules, r.fieldName = f.name

namespace ResolvedField

variable {r : ResolvedField}

theorem parameter_of_array {element : TypeRef} (hk : r.type.kind = .array)
    (he : r.type.element = some element) :
    r.parameter = { name := r.name, type := element, variadic := true } := by
  unfold parameter
  rw [hk, he]

theorem parameter_of_ne_array (hk : r.type.kind ≠ .array) :
    r.parameter = { name := r.name, type := r.type } := by
  unfold parameter
  split
  · rename_i h _
    exact absurd h hk
  · rfl

end ResolvedField

theorem map_constraint_eq {owner : String} {f : FieldDescriptor} {rules : List Rule}
    (h : resolveConstraints owner f = .ok rules) : rules.map (·.constraint) = f.constraints := by
  have hmap : f.constraints.map id = rules.map (·.constraint) :=
    map_eq_map_of_forall₂ ((mapM_eq_ok_iff ..).mp h) fun _ _ hr =>
      (resolveConstraint_enforces hr).constraint.symm
  rw [← hmap, List.map_id]

namespace Resolution

theorem sets (h : Resolution c fields) {f : FieldDescriptor} {r : ResolvedField} (hr : r ∈ fields)
    (hf : resolveField c.name f = .ok r) : Sets c f (r.setter c.builderReference) := by
  obtain ⟨hn, ht, hrules⟩ := (resolveField_eq_ok_iff ..).mp hf
  refine ⟨by rw [hn]; rfl, by rw [hn]; rfl, ?_, hrules, map_constraint_eq hrules, fun q hq => ?_⟩
  · refine ⟨r.parameter, r.type, rfl, ht, ?_⟩
    by_cases hk : r.type.kind = .array
    · obtain ⟨element, he⟩ := Option.ne_none_iff_exists'.mp (h.element_ne_none r hr hk)
      rw [ResolvedField.parameter_of_array hk he, TypeRef.render_of_array hk he]
      simp [hn, hk]
    · rw [ResolvedField.parameter_of_ne_array hk]
      simp [hn, hk]
  · rw [hn]
    exact h.fieldName_of_mem_rules hr hq

theorem setterFor_name (h : Resolution c fields) {r : ResolvedField} (hr : r ∈ fields) :
    (specOf c fields).setterFor r.name = .ok (r.setter c.builderReference) := by
  have hfind : (specOf c fields).setterFor? r.name = some (r.setter c.builderReference) := by
    have hkey : ((fun m : Method => m.assigns == some r.name) ∘
        fun q : ResolvedField => q.setter c.builderReference) = fun q => q.name == r.name := rfl
    have hset : (specOf c fields).setters = fields.map (·.setter c.builderReference) := rfl
    unfold BuilderSpec.setterFor?
    rw [hset, List.find?_map, hkey, find?_eq_some_of_nodup h.names_nodup hr]
    rfl
  unfold BuilderSpec.setterFor
  rw [hfind]

theorem setterFor_of_notMem {name : String} (hn : ∀ r ∈ fields, r.name ≠ name) :
    (specOf c fields).setterFor name = .error (.setter c.builderTypeName name) := by
  have hfind : (specOf c fields).setterFor? name = none := by
    unfold BuilderSpec.setterFor?
    rw [List.find?_eq_none]
    intro m hm
    obtain ⟨r, hr, rfl⟩ := List.mem_map.mp hm
    simpa [ResolvedField.setter] using hn r hr
  unfold BuilderSpec.setterFor
  rw [hfind]
  rfl

/-- Going through the fields in order, each has its setter at its own place. -/
theorem forall₂_sets (h : Resolution c fields) :
    List.Forall₂ (fun f m => Sets c f m ∧ (specOf c fields).setterFor f.name = .ok m)
      c.qualifyingFields (specOf c fields).setters := by
  have hset : (specOf c fields).setters = fields.map (·.setter c.builderReference) := rfl
  -- By position: that a setter is among the setters does not say for which field it is.
  rw [hset, List.forall₂_map_right_iff]
  refine h.forall₂_mem.imp fun f r ⟨hr, hf⟩ => ⟨h.sets hr hf, ?_⟩
  rw [((resolveField_eq_ok_iff ..).mp hf).1]
  exact h.setterFor_name hr

theorem fields_eq (h : Resolution c fields) :
    ((specOf c fields).fields.map fun f => (f.name, some f.type)) =
      c.qualifyingFields.map fun f => (f.name, f.type) := by
  have hmap : (c.qualifyingFields.map fun f => (f.name, f.type)) =
      fields.map fun r => (r.name, some r.type) := by
    refine map_eq_map_of_forall₂ h.resolved fun f r hr => ?_
    obtain ⟨hn, ht, -⟩ := (resolveField_eq_ok_iff ..).mp hr
    rw [hn, ht]
  rw [hmap]
  simp [specOf]

end Resolution

/-- What a derived builder has: the fields that take part, by name and type, a setter for each of
them at the same place, which is found by the name of the field and by no other, and the rules of
all setters for validation. -/
theorem assemble_fields_setters {s : BuilderSpec} (hs : assemble c = .ok s) :
    ((s.fields.map fun f => (f.name, some f.type)) =
        c.qualifyingFields.map fun f => (f.name, f.type)) ∧
      s.setters.length = s.fields.length ∧
      List.Forall₂ (fun f m => Sets c f m ∧ s.setterFor f.name = .ok m) c.qualifyingFields
        s.setters ∧
      s.validate.rules = s.setters.flatMap (·.rules) ∧
      ∀ name, name ∉ c.qualifyingFields.map (·.name) →
        s.setterFor name = .error (.setter s.qualifiedName name) := by
  obtain ⟨fields, h, rfl⟩ := Resolution.of_assemble hs
  refine ⟨h.fields_eq, by simp [specOf], h.forall₂_sets, ?_, fun name hn => ?_⟩
  · simp [specOf, List.flatMap_map, ResolvedField.setter]
  · refine Resolution.setterFor_of_notMem fun r hr he => hn ?_
    rw [h.names_eq]
    exact List.mem_map.mpr ⟨r, hr, he⟩

def ticketSeats : FieldDescriptor where
  name := "seats"
  type := some (.arrayOf { name := "String", kind := .text })
  constraints := [.nonEmpty, .size (.int 0) (.int 2)]

def ticketNote : FieldDescriptor where
  name := "note"
  type := some { name := "String", kind := .text }

/-- A class with an array, a field that takes no part, and a text. -/
def ticket : ClassDescriptor where
  name := "Ticket"
  fields := [ticketSeats,
    { name := "price", type := some { name := "int", kind := .scalar }, isTransient := true },
    ticketNote]

theorem assemble_fields_setters_ticket :
    ∃ s seats note, assemble ticket = .ok s ∧ s.setters = [seats, note] ∧
      Sets ticket ticketSeats seats ∧ Sets ticket ticketNote note ∧
      s.setterFor "note" = .ok note ∧
      s.setterFor "price" = .error (.setter s.qualifiedName "price") := by
  obtain ⟨s, hs⟩ := exists_eq_ok_of_toBool (x := assemble ticket) (by decide +kernel)
  obtain ⟨-, -, hall, -, hnone⟩ := assemble_fields_setters hs
  have hq : ticket.qualifyingFields = [ticketSeats, ticketNote] := rfl
  rw [hq, List.forall₂_cons_left_iff] at hall
  obtain ⟨seats, rest, ⟨hseats, -⟩, hall, he⟩ := hall
  obtain ⟨note, _, ⟨hnote, hfor⟩, hnil, rfl⟩ := List.forall₂_cons_left_iff.mp hall
  obtain rfl := List.forall₂_nil_left_iff.mp hnil
  exact ⟨s, seats, note, hs, he, hseats, hnote, hfor, hnone "price" (by decide)⟩

end FluentBuilder
