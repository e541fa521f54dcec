import FluentBuilder.Proofs.Builder.History

/-! Validation of a builder. A value that a setter has put in passes the rules of its field, so that
validation can only find that a value is missing. -/

namespace FluentBuilder

variable {c : ClassDescriptor} {fields : List ResolvedField} {t : BuilderType}

/-- Each value is null, or it passes all rules of its field. -/
def Kept (fields : List ResolvedField) (b : Builder) : Prop :=
  ∀ r ∈ fields, b.get r.name = .null ∨ checkAll (b.get r.name) r.rules = .ok ()

namespace Kept

variable {b after : Builder} {e : Event} {past : List Event}

theorem new (s : BuilderSpec) : Kept fields (.new s) := fun r _ => .inl (Builder.get_new s r.name)

/-- The rules that a setter checks are those that validation checks for its field. -/
theorem change (h : Resolution c fields) (hrec : Recorded c past b) (hk : Kept fields b)
    (hc : Change c b e after) : Kept fields after := by
  cases hc with
  | @assigned f r arguments v hf hfr ha hb hv =>
    intro q hq
    obtain ⟨g, hg, hgq⟩ := h.exists_declared hq
    obtain ⟨hn, -, -⟩ := (resolveField_eq_ok_iff ..).mp hgq
    -- The setter's rules are found at its field's place; the values of the others are not touched.
    by_cases he : f.name = g.name
    · obtain rfl : f = g := h.eq_of_name_eq hf hg he
      obtain rfl : r = q := Except.ok.inj (hfr.symm.trans hgq)
      have hm : f.name ∈ b.keys := hrec.keys_eq ▸ List.mem_map_of_mem hf
      rw [← hn, Builder.get_set_self _ _ _ hm]
      exact .inr hv
    · rw [← hn, Builder.get_set_of_ne _ _ _ (Ne.symm he), hn]
      exact hk q hq
  | built => exact hk
  | quiet => exact hk

theorem of_run (h : Resolution c fields) (ht : t.spec = specOf c fields)
    (hr : t.Run (.new t.spec) past b) : Kept fields b := by
  have hnew : Recorded c [] (.new t.spec) := ht ▸ .new h
  have hboth := hr.preserves h ht (P := fun past b => Recorded c past b ∧ Kept fields b)
    (fun _ _ _ _ hc hp => ⟨hp.1.change h hc, hp.2.change h hp.1 hc⟩) [] ⟨hnew, .new t.spec⟩
  exact hboth.2

end Kept

/-- The constraints that the value of the field does not meet, since it is null. -/
def FieldDescriptor.missing (f : FieldDescriptor) (b : Builder) : List Constraint :=
  match b.get f.name with
  | .null => f.constraints.filter (·.demandsPresence)
  | _ => []

/-- All that is missing, in the order of the fields and of the constraints of each. -/
def ClassDescriptor.missing (c : ClassDescriptor) (b : Builder) :
    List (FieldDescriptor × Constraint) :=
  c.qualifyingFields.flatMap fun f => (f.missing b).map (f, ·)

/-- The check passes if nothing is missing; else it fails for the first that is. -/
def Reports (owner : String) (outcome : Except CheckError Unit) :
    List (FieldDescriptor × Constraint) → Prop
  | [] => outcome = .ok ()
  | (f, k) :: _ => ∃ r, resolveConstraint owner f k = .ok r ∧
      outcome = .error (.violation (r.violation .null))

namespace Reports

variable {owner : String}

theorem append {x y : Except CheckError Unit} {first second : List (FieldDescriptor × Constraint)}
    (hx : Reports owner x first) (hy : Reports owner y second) :
    Reports owner (x >>= fun _ => y) (first ++ second) := by
  cases first with
  | nil =>
    obtain rfl : x = .ok () := hx
    exact hy
  | cons p rest =>
    obtain ⟨r, hr, rfl⟩ := hx
    exact ⟨r, hr, rfl⟩

theorem check_null {f : FieldDescriptor} {k : Constraint} {r : Rule}
    (hr : resolveConstraint owner f k = .ok r) :
    Reports owner (r.check .null) (if k.demandsPresence then [(f, k)] else []) := by
  rw [(resolveConstraint_enforces hr).check_null]
  cases k.demandsPresence with
  | true => exact ⟨r, hr, rfl⟩
  | false => rfl

/-- Null breaks the rules of the constraints that demand presence. -/
theorem checkAll_null {f : FieldDescriptor} {ks : List Constraint} {rules : List Rule}
    (h : List.Forall₂ (fun k r => resolveConstraint owner f k = .ok r) ks rules) :
    Reports owner (checkAll .null rules) ((ks.filter (·.demandsPresence)).map (f, ·)) := by
  induction h with
  | nil => rfl
  | @cons k r ks rules hr _ ih =>
    have hboth := (check_null hr).append ih
    rw [checkAll, List.filter_cons]
    cases hk : k.demandsPresence with
    | true => simpa [hk] using hboth
    | false => simpa [hk] using hboth

theorem checkAll_field {f : FieldDescriptor} {r : ResolvedField} {b : Builder}
    (hf : resolveField owner f = .ok r)
    (hk : b.get r.name = .null ∨ checkAll (b.get r.name) r.rules = .ok ()) :
    Reports owner (checkAll (b.get r.name) r.rules) ((f.missing b).map (f, ·)) := by
  obtain ⟨hn, -, hrules⟩ := (resolveField_eq_ok_iff ..).mp hf
  have hnull := checkAll_null ((mapM_eq_ok_iff ..).mp hrules)
  unfold FieldDescriptor.missing
  rw [hn]
  split
  · rename_i hv
    rw [hv]
    exact hnull
  · rename_i hv
    obtain hk | hk := hk
    · exact absurd hk hv
    · exact hk

theorem validate_fields {b : Builder} {fs : List FieldDescriptor} {fields : List ResolvedField}
    (h : List.Forall₂ (fun f r => resolveField owner f = .ok r) fs fields)
    (hk : Kept fields b) (hn : ∀ r ∈ fields, ∀ q ∈ r.rules, q.fieldName = r.name) :
    Reports owner (b.validate (fields.flatMap (·.rules)))
      (fs.flatMap fun f => (f.missing b).map (f, ·)) := by
  induction h with
  | nil => rfl
  | @cons f r fs fields hf _ ih =>
    have hrest := ih (fun q hq => hk q (List.mem_cons_of_mem _ hq))
      (fun q hq => hn q (List.mem_cons_of_mem _ hq))
    have hfirst := checkAll_field hf (hk r List.mem_cons_self)
    rw [List.flatMap_cons, List.flatMap_cons, Builder.validate_append,
      Builder.validate_of_fieldName_eq b (hn r List.mem_cons_self)]
    exact hfirst.append hrest

end Reports

namespace Resolution

theorem validate_reports (h : Resolution c fields) {b : Builder} (hk : Kept fields b) :
    Reports c.name (b.validate (specOf c fields).validate.rules) (c.missing b) :=
  Reports.validate_fields h.resolved hk fun _ hr _ hq => h.fieldName_of_mem_rules hr hq

end Resolution

end FluentBuilder
