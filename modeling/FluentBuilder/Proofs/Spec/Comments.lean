import FluentBuilder.Proofs.Builder.Namespace
import FluentBuilder.Proofs.Spec.Bystander
import FluentBuilder.Proofs.Spec.Description

/-! Comments for the setters of a builder, put into its description one by one. Each step can fail:
a field or an entry may be missing, and a comment may have nothing to be written about. For a
derived builder no step does, each setter has its own comment, and nothing else is changed. -/

namespace FluentBuilder

namespace Tree

/-- Entries with a value under a key: in the place of the old one, or else at the end. -/
def putEntry (key : String) (value : Tree) : List (String × Tree) → List (String × Tree)
  | [] => [(key, value)]
  | (k, v) :: rest => if k = key then (k, value) :: rest else (k, v) :: putEntry key value rest

def put (t : Tree) (key : String) (value : Tree) : Tree :=
  match t with
  | .fields entries => .fields (putEntry key value entries)
  | t => t

def without (key : String) : Tree → Tree
  | .fields entries => .fields (entries.filter (·.1 ≠ key))
  | t => t

/-- Data in which the items of a list lose the entry under a key. -/
def itemsWithout (key : String) : Tree → Tree
  | .list items => .list (items.map (without key))
  | t => t

/-- A description of a builder without the comments in the descriptions of its methods. -/
def withoutComments : Tree → Tree
  | .fields entries =>
    .fields (entries.map fun (k, v) => (k, if k = "methods" then v.itemsWithout "doc" else v))
  | t => t

end Tree

/-- Why comments cannot be put into data. -/
inductive AttachFault
  | lookup (error : LookupError)
  | fault (fault : Fault)
  | noEntry (key : String)
  | noList
  | noName

/-- The entry of a mapping under a key, which must be there. -/
def Tree.entryAt (key : String) (t : Tree) : Except AttachFault Tree :=
  match t.entry? key with
  | some value => .ok value
  | none => .error (.noEntry key)

/-- The field that a setter assigns. -/
def assignedField (c : ClassDescriptor) (setter : Method) : Except AttachFault FieldDescriptor :=
  match setter.assigns with
  | some name => (c.field name).mapError .lookup
  | none => .error (.lookup (.field c.name "None"))

def commentOf (c : ClassDescriptor) (setter : Method) : Except AttachFault (String × String) := do
  let f ← assignedField c setter
  let doc ← (documentSetter f setter.rules).mapError .fault
  return (setter.name, doc)

/-- Puts the comment for the name of a method into its description. Of two comments for one name the
last one counts. -/
def attachComment (comments : List (String × String)) (method : Tree) :
    Except AttachFault Tree := do
  match ← method.entryAt "name" with
  | .text name =>
    match comments.reverse.lookup name with
    | some doc => return method.put "doc" (.text doc)
    | none => return method
  | .flag _ => return method
  | _ => throw .noName

def attachComments (c : ClassDescriptor) (s : BuilderSpec) (data : Tree) :
    Except AttachFault Tree := do
  let comments ← s.setters.mapM (commentOf c)
  match ← data.entryAt "methods" with
  | .list methods => return data.put "methods" (.list (← methods.mapM (attachComment comments)))
  | _ => throw .noList

/-- The description of a method of the class's builder: a setter's is its own description with the
comment for the field that it assigns and for its own rules behind it, and any other's is its own. -/
inductive Documented (c : ClassDescriptor) (m : Method) : Tree → Prop
  | setter {f : FieldDescriptor} {doc : String} : m.kind = .setter → f ∈ c.qualifyingFields →
      m.assigns = some f.name → documentSetter f m.rules = .ok doc →
      Documented c m (m.describe.withEntry "doc" (.text doc))
  | other : m.kind ≠ .setter → Documented c m m.describe

section

variable {α : Type} {xs : List (String × α)}

theorem lookup_reverse_of_nodup (h : (xs.map Prod.fst).Nodup) (k : String) :
    xs.reverse.lookup k = xs.lookup k := by
  have hreverse : (xs.reverse.map Prod.fst).Nodup := by
    rwa [List.map_reverse, List.nodup_reverse]
  ext v
  rw [lookup_eq_some_iff_of_nodup h, lookup_eq_some_iff_of_nodup hreverse, List.mem_reverse]

end

namespace Tree

variable {key : String} {value : Tree} {entries : List (String × Tree)}

theorem putEntry_of_notMem (h : key ∉ entries.map Prod.fst) :
    putEntry key value entries = entries ++ [(key, value)] := by
  induction entries with
  | nil => rfl
  | cons x xs ih =>
    obtain ⟨k, v⟩ := x
    rw [List.map_cons, List.mem_cons, not_or] at h
    rw [putEntry, if_neg (Ne.symm h.1), ih h.2, List.cons_append]

theorem without_of_notMem (h : key ∉ entries.map Prod.fst) :
    without key (.fields entries) = .fields entries := by
  rw [without, List.filter_eq_self.mpr]
  intro x hx
  simpa using fun he : x.1 = key => h (he ▸ List.mem_map_of_mem hx)

theorem without_withEntry (h : key ∉ entries.map Prod.fst) :
    without key ((Tree.fields entries).withEntry key value) = .fields entries := by
  have hown := without_of_notMem h
  rw [without, Tree.fields.injEq] at hown
  rw [withEntry, without, List.filter_append, hown]
  simp

end Tree

theorem Method.exists_entries (m : Method) :
    ∃ entries, m.describe = .fields entries ∧ "doc" ∉ entries.map Prod.fst := by
  refine ⟨_, rfl, ?_⟩
  have htext (key : String) (s : Option String) (h : "doc" ≠ key) :
      "doc" ∉ (textEntry key s).map Prod.fst := by
    cases s <;> simp [textEntry, h]
  have hlist (key : String) (items : List Tree) (h : "doc" ≠ key) :
      "doc" ∉ (listEntry key items).map Prod.fst := by
    cases items <;> simp [listEntry, h]
  simp [htext, hlist]

namespace Documented

variable {c : ClassDescriptor} {m : Method} {t : Tree}

theorem without_doc (h : Documented c m t) : t.without "doc" = m.describe := by
  obtain ⟨entries, hentries, hnot⟩ := m.exists_entries
  cases h with
  | setter =>
    rw [hentries]
    exact Tree.without_withEntry hnot
  | other =>
    rw [hentries]
    exact Tree.without_of_notMem hnot

end Documented

variable {c : ClassDescriptor} {s : BuilderSpec} {comments : List (String × String)}

theorem assignedField_eq_ok_iff (c : ClassDescriptor) (m : Method) (f : FieldDescriptor) :
    assignedField c m = .ok f ↔ ∃ name, m.assigns = some name ∧ c.field? name = some f := by
  unfold assignedField
  cases m.assigns with
  | none => simp
  | some name =>
    unfold ClassDescriptor.field
    cases hf : c.field? name <;> simp [Except.mapError, hf]

theorem setterDocs_eq (h : s.setters.mapM (commentOf c) = .ok comments) :
    setterDocs c s = comments := by
  refine filterMap_eq_of_forall₂ (((mapM_eq_ok_iff ..).mp h).imp fun m p hp => ?_)
  unfold commentOf at hp
  obtain ⟨f, hf, hp⟩ := (bind_eq_ok_iff ..).mp hp
  obtain ⟨doc, hdoc, hp⟩ := (bind_eq_ok_iff ..).mp hp
  have hdoc := (mapError_eq_ok_iff ..).mp hdoc
  obtain rfl := Except.ok.inj hp
  obtain ⟨name, ha, hfield⟩ := (assignedField_eq_ok_iff ..).mp hf
  simp [ha, hfield, hdoc, Except.toOption]

theorem commentOf_eq (h : assemble c = .ok s) {m : Method} (hm : m ∈ s.setters) :
    ∃ f ∈ c.qualifyingFields, ∃ doc, m.assigns = some f.name ∧
      documentSetter f m.rules = .ok doc ∧ commentOf c m = .ok (m.name, doc) := by
  obtain ⟨f, hf, ha, doc, hdoc⟩ := exists_field_of_setter h hm
  refine ⟨f, hf, doc, ha, hdoc, ?_⟩
  have hfield : assignedField c m = .ok f :=
    (assignedField_eq_ok_iff ..).mpr ⟨_, ha, field?_name (soundFields_of_assemble h) hf⟩
  have hwritten : (documentSetter f m.rules).mapError AttachFault.fault = .ok doc :=
    (mapError_eq_ok_iff ..).mpr hdoc
  exact (bind_eq_ok_iff ..).mpr ⟨f, hfield, (bind_eq_ok_iff ..).mpr ⟨doc, hwritten, rfl⟩⟩

theorem mapM_commentOf_eq (h : assemble c = .ok s) :
    s.setters.mapM (commentOf c) = .ok (setterDocs c s) := by
  obtain ⟨comments, hcomments⟩ := (exists_mapM_eq_ok_iff (commentOf c) s.setters).mpr fun m hm => by
    obtain ⟨f, -, doc, -, -, hcomment⟩ := commentOf_eq h hm
    exact ⟨_, hcomment⟩
  rw [hcomments, setterDocs_eq hcomments]

/-- Attaching a comment to the description of a method is describing the method with it. -/
theorem attachComment_describe (hnodup : (comments.map Prod.fst).Nodup) (m : Method) :
    attachComment comments m.describe = .ok (describeMethodWith comments m) := by
  obtain ⟨entries, hentries, hnot⟩ := m.exists_entries
  have hname : m.describe.entryAt "name" = .ok (.text m.name) := by
    rw [Tree.entryAt, m.entry?_name]
  have hput (value : Tree) : m.describe.put "doc" value = m.describe.withEntry "doc" value := by
    rw [hentries, Tree.put, Tree.putEntry_of_notMem hnot, Tree.withEntry]
  unfold attachComment describeMethodWith
  rw [hname, ← lookup_reverse_of_nodup hnodup]
  change (match comments.reverse.lookup m.name with
    | some doc => Except.ok (m.describe.put "doc" (.text doc))
    | none => Except.ok m.describe) = _
  cases comments.reverse.lookup m.name with
  | none => rfl
  | some doc => exact congrArg Except.ok (hput _)

theorem setterDocs_nodup (h : assemble c = .ok s) : ((setterDocs c s).map Prod.fst).Nodup := by
  obtain ⟨fields, hr, hs⟩ := Resolution.of_assemble h
  rw [map_fst_setterDocs h, hs]
  simpa [specOf, ResolvedField.setter, Function.comp_def] using hr.setterNames_nodup

theorem attachComments_eq (h : assemble c = .ok s) :
    attachComments c s s.describe = .ok (describeDocumented c s) := by
  have hnodup := setterDocs_nodup h
  have hmethods : (s.methods.map (·.describe)).mapM (attachComment (setterDocs c s)) =
      .ok (s.methods.map (describeMethodWith (setterDocs c s))) := by
    rw [mapM_eq_ok_iff, List.forall₂_map_left_iff, List.forall₂_map_right_iff, List.forall₂_same]
    exact fun m _ => attachComment_describe hnodup m
  have hentry : s.describe.entryAt "methods" = .ok (.list (s.methods.map (·.describe))) := by
    simp [BuilderSpec.describe, BuilderSpec.describeWith, Tree.entryAt, Tree.entry?,
      List.lookup_cons]
  have hput (methods : List Tree) :
      s.describe.put "methods" (.list methods) = s.describeWith methods := by
    simp [BuilderSpec.describe, BuilderSpec.describeWith, Tree.put, Tree.putEntry]
  unfold attachComments
  rw [mapM_commentOf_eq h, hentry]
  change ((s.methods.map (·.describe)).mapM (attachComment (setterDocs c s)) >>= fun methods =>
    pure (s.describe.put "methods" (.list methods))) = _
  rw [hmethods]
  exact congrArg Except.ok (hput _)

theorem mem_setters_iff (h : assemble c = .ok s) {m : Method} (hm : m ∈ s.methods) :
    m ∈ s.setters ↔ m.kind = .setter := by
  obtain ⟨fields, -, rfl⟩ := Resolution.of_assemble h
  constructor
  · intro hs
    obtain ⟨r, -, rfl⟩ := List.mem_map.mp hs
    rfl
  · intro hk
    simp only [BuilderSpec.methods, List.mem_cons, List.mem_append, List.not_mem_nil,
      or_false] at hm
    rcases hm with rfl | rfl | hs | rfl | rfl
    · cases hk
    · cases hk
    · exact hs
    · cases hk
    · cases hk

theorem documented (h : assemble c = .ok s) {m : Method} (hm : m ∈ s.methods) :
    Documented c m (describeMethodWith (setterDocs c s) m) := by
  have hnodup : (s.methods.map (·.name)).Nodup := by
    obtain ⟨fields, hr, rfl⟩ := Resolution.of_assemble h
    exact hr.methodNames_nodup
  have hmethods {n : Method} (hn : n ∈ s.setters) : n ∈ s.methods := by
    simp [BuilderSpec.methods, hn]
  have hkeys : (setterDocs c s).map Prod.fst = s.setters.map (·.name) := map_fst_setterDocs h
  unfold describeMethodWith
  by_cases hs : m ∈ s.setters
  · obtain ⟨f, hf, doc, ha, hdoc, hcomment⟩ := commentOf_eq h hs
    have hmem : (m.name, doc) ∈ setterDocs c s := by
      obtain ⟨p, hp, he⟩ := exists_of_forall₂_left ((mapM_eq_ok_iff ..).mp (mapM_commentOf_eq h)) hs
      rwa [Except.ok.inj (hcomment.symm.trans he)]
    rw [(lookup_eq_some_iff_of_nodup (setterDocs_nodup h)).mpr hmem]
    exact .setter ((mem_setters_iff h hm).mp hs) hf ha hdoc
  · -- A method that is no setter shares its name with none.
    have hnone : (setterDocs c s).lookup m.name = none := by
      rw [List.lookup_eq_none_iff]
      intro p hp
      have hname : p.1 ∈ s.setters.map (·.name) := hkeys ▸ List.mem_map_of_mem hp
      obtain ⟨n, hn, hnp⟩ := List.mem_map.mp hname
      rw [bne_iff_ne]
      intro he
      exact hs (List.inj_on_of_nodup_map hnodup (hmethods hn) hm (hnp.trans he.symm) ▸ hn)
    rw [hnone]
    exact .other fun hk => hs ((mem_setters_iff h hm).mpr hk)

/-- Putting the comments into the description of a derived builder does not fail. Each setter gets
the comment for the field that it assigns and for its own rules, no other method gets any, and
without the comments the description is what it was. -/
theorem comments_attach (h : assemble c = .ok s) :
    ∃ methods, attachComments c s s.describe = .ok (s.describeWith methods) ∧
      describeDocumented c s = s.describeWith methods ∧
      List.Forall₂ (Documented c) s.methods methods ∧
      (s.describeWith methods).withoutComments = s.describe := by
  have hdocumented : List.Forall₂ (Documented c) s.methods
      (s.methods.map (describeMethodWith (setterDocs c s))) := by
    rw [List.forall₂_map_right_iff, List.forall₂_same]
    exact fun m hm => documented h hm
  refine ⟨_, attachComments_eq h, rfl, hdocumented, ?_⟩
  have hrestored : (s.methods.map (describeMethodWith (setterDocs c s))).map (·.without "doc") =
      s.methods.map (·.describe) :=
    (map_eq_map_of_forall₂ hdocumented fun m t ht => ht.without_doc.symm).symm
  simp only [BuilderSpec.describe, BuilderSpec.describeWith, Tree.withoutComments, List.map_cons,
    List.map_nil, Tree.itemsWithout, ← hrestored]
  rfl

def thingsComment : String :=
  "Sets the value of things.\nAccepts any number of Thing values, stored as Thing[].\n\n" ++
    "Constraints:\n- things must not be empty\n\n@param things the new value (Thing[])\n" ++
    "@return this builder\n@throws ConstraintViolation if the value breaks a constraint"

/-- The things of a crate get a comment, and the seal and the count get none. -/
theorem comments_attach_crate :
    ∃ s data, assemble crate = .ok s ∧ attachComments crate s s.describe = .ok data ∧
      data.withoutComments = s.describe ∧
      setterDocs crate s = [("withThings", thingsComment)] := by
  obtain ⟨s, hs, hdocs⟩ := exists_eq_ok_of_any (x := assemble crate)
    (p := fun s => setterDocs crate s = [("withThings", thingsComment)]) (by decide +kernel)
  obtain ⟨methods, hattach, -, -, hrestored⟩ := comments_attach hs
  exact ⟨s, _, hs, hattach, hrestored, of_decide_eq_true hdocs⟩

end FluentBuilder
