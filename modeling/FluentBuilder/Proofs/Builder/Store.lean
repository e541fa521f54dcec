import FluentBuilder.Builder.Basic

/-! The values of a builder by the names of their fields. Putting in a value keeps the names and the
other values. -/

namespace FluentBuilder

namespace Builder

variable (b : Builder) (field : String) (v : Value)

def keys : List String := b.values.map (·.1)

@[simp] theorem keys_new (s : BuilderSpec) : (new s).keys = s.fields.map (·.name) := by
  simp [keys, new]

@[simp] theorem keys_set : (b.set field v).keys = b.keys := by
  simp [keys, set]

theorem lookup_set (name : String) :
    (b.set field v).values.lookup name =
      (b.values.lookup name).map fun old => if name = field then v else old := by
  unfold set
  induction b.values with
  | nil => rfl
  | cons p rest ih =>
    obtain ⟨key, old⟩ := p
    by_cases hk : name = key
    · subst hk
      simp [List.lookup_cons_self]
    · have hb : (name == key) = false := by simpa using hk
      rw [List.map_cons, List.lookup_cons, List.lookup_cons, hb]
      exact ih

theorem get_set_of_ne {name : String} (hn : name ≠ field) :
    (b.set field v).get name = b.get name := by
  unfold get
  rw [lookup_set]
  simp [hn]

theorem lookup_isSome_of_mem {b : Builder} {name : String} (h : name ∈ b.keys) :
    (b.values.lookup name).isSome := by
  obtain ⟨⟨key, w⟩, hm, rfl⟩ := List.mem_map.mp h
  rw [List.lookup_isSome_iff]
  exact ⟨(key, w), hm, by simp⟩

theorem get_set_self (h : field ∈ b.keys) : (b.set field v).get field = v := by
  obtain ⟨old, ho⟩ := Option.isSome_iff_exists.mp (lookup_isSome_of_mem h)
  unfold get
  rw [lookup_set, ho]
  simp

theorem lookup_eq_get {b : Builder} {name : String} (h : name ∈ b.keys) :
    b.values.lookup name = some (b.get name) := by
  obtain ⟨w, hw⟩ := Option.isSome_iff_exists.mp (lookup_isSome_of_mem h)
  simp [get, hw]

theorem values_eq_of_nodup (h : b.keys.Nodup) :
    b.values = b.keys.map fun name => (name, b.get name) := by
  obtain ⟨values, built⟩ := b
  unfold keys get at *
  induction values with
  | nil => rfl
  | cons p rest ih =>
    obtain ⟨key, w⟩ := p
    rw [List.map_cons, List.nodup_cons] at h
    rw [List.map_cons, List.map_cons, List.lookup_cons_self]
    refine congrArg _ ((ih h.2).trans (List.map_congr_left fun name hn => ?_))
    have hne : (name == key) = false := by
      simpa using fun he : name = key => h.1 (he ▸ hn)
    rw [List.lookup_cons, hne]

theorem get_new (s : BuilderSpec) (name : String) : (new s).get name = .null := by
  unfold get new
  induction s.fields with
  | nil => rfl
  | cons f rest ih =>
    rw [List.map_cons, List.lookup_cons]
    cases name == f.name with
    | true => rfl
    | false => exact ih

end Builder

end FluentBuilder
