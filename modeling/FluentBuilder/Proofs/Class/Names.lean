import FluentBuilder.Class.Naming
import FluentBuilder.Class.Structure
import FluentBuilder.Proofs.Traversal

/-! What the checks of a class say: the names of its fields are distinct, each field has a type, and
the names made for setters are distinct. -/

namespace FluentBuilder

theorem checkFieldType_eq_ok_iff (owner : String) (f : FieldDescriptor) :
    checkFieldType owner f = .ok () ↔
      ∃ t, f.type = some t ∧ t.name ≠ "" ∧ (t.kind = .array → t.element ≠ none) := by
  unfold checkFieldType
  cases hf : f.type with
  | none => simp
  | some t =>
    by_cases hn : t.name = ""
    · simp [hn]
    · by_cases ha : t.kind = .array ∧ t.element = none
      · simp [hn, ha]
      · simp only [hn, ha, if_false, Option.some.injEq, true_iff]
        exact ⟨t, rfl, hn, fun hk he => ha ⟨hk, he⟩⟩

def checkParameter (owner : String) (seen : List String) (p : String) : Except ClassError Unit :=
  if !isName p then .error (.parameterName p owner)
  else if seen.contains p then .error (.parameterTwice p owner)
  else .ok ()

theorem checkParameter_eq_ok_iff (owner : String) (seen : List String) (p : String) :
    checkParameter owner seen p = .ok () ↔ isName p = true ∧ p ∉ seen := by
  unfold checkParameter
  by_cases hn : isName p = true
  · by_cases hs : p ∈ seen
    · simp [hn, hs]
    · simp [hn, hs]
  · simp [hn]

theorem checkParameters_eq_scan (owner : String) (seen ps : List String) :
    checkParameters owner seen ps =
      scan (checkParameter owner) (fun seen p => p :: seen) seen ps := by
  induction ps generalizing seen with
  | nil => rfl
  | cons p ps ih =>
    rw [checkParameters, scan, ← ih, checkParameter]
    split_ifs <;> rfl

/-- The loop over type parameters: none has been seen before, and none comes twice. -/
theorem checkParameters_eq_ok_iff (owner : String) (seen ps : List String) :
    checkParameters owner seen ps = .ok () ↔
      (∀ p ∈ ps, isName p = true ∧ p ∉ seen) ∧ ps.Nodup := by
  rw [checkParameters_eq_scan, scan_eq_ok_iff_of_new (fun p => p) (checkParameter_eq_ok_iff owner),
    List.map_id']

def checkField (owner : String) (seen : List String) (f : FieldDescriptor) :
    Except ClassError Unit :=
  if !isName f.name then .error (.fieldName f.name owner)
  else if seen.contains f.name then .error (.fieldTwice f.name owner)
  else checkFieldType owner f

theorem checkField_eq_ok_iff (owner : String) (seen : List String) (f : FieldDescriptor) :
    checkField owner seen f = .ok () ↔
      (isName f.name = true ∧ checkFieldType owner f = .ok ()) ∧ f.name ∉ seen := by
  unfold checkField
  by_cases hn : isName f.name = true
  · by_cases hs : f.name ∈ seen
    · simp [hn, hs]
    · simp [hn, hs]
  · simp [hn]

theorem checkFields_eq_scan (owner : String) (seen : List String) (fs : List FieldDescriptor) :
    checkFields owner seen fs =
      scan (checkField owner) (fun seen f => f.name :: seen) seen fs := by
  induction fs generalizing seen with
  | nil => rfl
  | cons f fs ih =>
    rw [checkFields, scan, ← ih, checkField]
    split_ifs <;> rfl

theorem checkFields_eq_ok_iff (owner : String) (seen : List String) (fs : List FieldDescriptor) :
    checkFields owner seen fs = .ok () ↔
      (∀ f ∈ fs, isName f.name = true ∧ f.name ∉ seen ∧ checkFieldType owner f = .ok ()) ∧
        (fs.map (·.name)).Nodup := by
  rw [checkFields_eq_scan,
    scan_eq_ok_iff_of_new FieldDescriptor.name (checkField_eq_ok_iff owner)]
  refine and_congr_left fun _ => forall₂_congr fun f _ => ?_
  rw [and_assoc, and_comm (a := checkFieldType owner f = .ok ())]

theorem ClassDescriptor.checkStructure_eq_ok_iff (c : ClassDescriptor) :
    c.checkStructure = .ok () ↔ isName c.name = true ∧
      checkParameters c.name [] c.typeParameters = .ok () ∧
        checkFields c.name [] c.fields = .ok () := by
  unfold checkStructure
  cases hn : isName c.name with
  | false => simp [throw, throwThe, MonadExceptOf.throw, bind, Except.bind]
  | true =>
    change (pure () >>= fun _ => checkParameters c.name [] c.typeParameters >>= fun _ =>
      checkFields c.name [] c.fields) = .ok () ↔ _
    rw [pure_bind, bind_unit_eq_ok_iff]
    simp

theorem checkSetters_eq_ok_iff (earlier : List (String × String)) (names : List String) :
    checkSetters earlier names = .ok () ↔
      (∀ n ∈ names, earlier.lookup (setterName n) = none) ∧ (names.map setterName).Nodup := by
  induction names generalizing earlier with
  | nil => simp [checkSetters]
  | cons n names ih =>
    rw [checkSetters]
    cases hl : earlier.lookup (setterName n) with
    | some other =>
      simp only [reduceCtorEq, List.forall_mem_cons, hl, false_and]
    | none =>
      simp only [ih, hl, List.lookup_append, Option.or_eq_none_iff, List.map_cons, List.nodup_cons,
        List.forall_mem_cons, true_and]
      constructor
      · rintro ⟨hns, hd⟩
        refine ⟨fun m hm => (hns m hm).1, fun hm => ?_, hd⟩
        obtain ⟨m, hm, he⟩ := List.mem_map.mp hm
        have hne := (hns m hm).2
        rw [he, List.lookup_cons_self] at hne
        cases hne
      · rintro ⟨hns, hm, hd⟩
        refine ⟨fun m hmem => ⟨hns m hmem, ?_⟩, hd⟩
        have hne : setterName m ≠ setterName n := fun he => hm (List.mem_map.mpr ⟨m, hmem, he⟩)
        rw [List.lookup_singleton, if_neg (by simpa using hne)]

end FluentBuilder
