import FluentBuilder.Proofs.Rule.Wording
import FluentBuilder.Proofs.Spec.Assembly
import FluentBuilder.Spec.Description

/-! What the description of a builder tells. It names no constraints and no kinds of types, but two
builders with equal descriptions agree in the names of their members and fields, and in what their
rules do with every value. -/

namespace FluentBuilder

/-- The rules are about the same field, are worded alike, and treat every value alike. -/
structure Rule.Agree (r q : Rule) : Prop where
  fieldName : r.fieldName = q.fieldName
  kind : r.kind = q.kind
  message : r.message = q.message
  holds : r.holds = q.holds

/-- The methods have one name, set one field, take arguments alike and run rules that agree. -/
structure Method.Agree (m n : Method) : Prop where
  name : m.name = n.name
  assigns : m.assigns = n.assigns
  variadic : m.parameters.map (·.variadic) = n.parameters.map (·.variadic)
  rules : List.Forall₂ Rule.Agree m.rules n.rules

/-- The builders have one name, fields of the same names, and setters and rules that agree. -/
structure BuilderSpec.Agree (s t : BuilderSpec) : Prop where
  qualifiedName : s.qualifiedName = t.qualifiedName
  fields : s.fields.map (·.name) = t.fields.map (·.name)
  setters : List.Forall₂ Method.Agree s.setters t.setters
  rules : List.Forall₂ Rule.Agree s.validate.rules t.validate.rules

def Rule.IsWhole (r : Rule) : Prop :=
  ∃ owner f k, resolveConstraint owner f k = .ok r ∧ k.IsWhole

/-- The bounds of all ranges on fields that take part are whole numbers. -/
def ClassDescriptor.IsWhole (c : ClassDescriptor) : Prop :=
  ∀ f ∈ c.qualifyingFields, ∀ k ∈ f.constraints, k.IsWhole

namespace Rule

theorem agree_of_describe_eq {r q : Rule} (hr : r.IsWhole) (hq : q.IsWhole)
    (h : r.describe = q.describe) : r.Agree q := by
  obtain ⟨_, f, k, hr, hk⟩ := hr
  obtain ⟨_, g, l, hq, hl⟩ := hq
  obtain ⟨⟨hf, hrk, -⟩, hrt, hrs⟩ := resolveConstraint_makes hr
  obtain ⟨⟨hg, hql, -⟩, hqt, hqs⟩ := resolveConstraint_makes hq
  simp only [describe, Tree.fields.injEq, List.cons.injEq, Prod.mk.injEq, Tree.text.injEq,
    true_and, and_true] at h
  obtain ⟨hname, hkind, -, hmessage⟩ := h
  refine ⟨hname, hkind, hmessage, ?_⟩
  have hkinds : k.kind = l.kind := by
    rw [← hrk, ← hql]
    exact hkind
  rw [← hf, hname] at hrs
  rw [← hg] at hqs
  exact holds_eq_of_says hkinds hrt hqt hk hl hrs hqs hmessage

theorem forall₂_agree {rs qs : List Rule} (hr : ∀ r ∈ rs, r.IsWhole) (hq : ∀ q ∈ qs, q.IsWhole)
    (h : rs.map (·.describe) = qs.map (·.describe)) : List.Forall₂ Agree rs qs :=
  forall₂_of_map_eq (fun r hmr q hmq => agree_of_describe_eq (hr r hmr) (hq q hmq)) h

end Rule

def Tree.entry? (key : String) : Tree → Option Tree
  | .fields entries => entries.lookup key
  | _ => none

/-- The items of an entry, unless there are none. -/
def Tree.items? (items : List Tree) : Option Tree := if items = [] then none else some (.list items)

theorem Tree.items?_injective : Function.Injective Tree.items? := by
  intro xs ys h
  unfold Tree.items? at h
  by_cases hx : xs = []
  · by_cases hy : ys = []
    · rw [hx, hy]
    · simp [hx, hy] at h
  · by_cases hy : ys = []
    · simp [hx, hy] at h
    · simpa [hx, hy] using h

namespace Tree

mutual

/-- The data are made up in the same way. -/
def same : Tree → Tree → Bool
  | .text a, .text b => a == b
  | .flag a, .flag b => a == b
  | .list a, .list b => sameItems a b
  | .fields a, .fields b => sameEntries a b
  | _, _ => false

def sameItems : List Tree → List Tree → Bool
  | [], [] => true
  | a :: as, b :: bs => same a b && sameItems as bs
  | _, _ => false

def sameEntries : List (String × Tree) → List (String × Tree) → Bool
  | [], [] => true
  | (k, a) :: as, (l, b) :: bs => k == l && same a b && sameEntries as bs
  | _, _ => false

end

mutual

theorem same_iff : ∀ a b : Tree, same a b = true ↔ a = b
  | .text _, b | .flag _, b => by cases b <;> simp [same]
  | .list a, b => by cases b <;> simp [same, sameItems_iff a]
  | .fields a, b => by cases b <;> simp [same, sameEntries_iff a]

theorem sameItems_iff : ∀ as bs : List Tree, sameItems as bs = true ↔ as = bs
  | [], bs => by cases bs <;> simp [sameItems]
  | a :: as, bs => by cases bs <;> simp [sameItems, same_iff a, sameItems_iff as]

theorem sameEntries_iff : ∀ as bs : List (String × Tree), sameEntries as bs = true ↔ as = bs
  | [], bs => by cases bs <;> simp [sameEntries]
  | (k, a) :: as, bs => by
    rcases bs with _ | ⟨⟨l, b⟩, bs⟩
    · simp [sameEntries]
    · simp [sameEntries, same_iff a, sameEntries_iff as]

end

instance : DecidableEq Tree := fun a b => decidable_of_iff _ (same_iff a b)

end Tree

theorem lookup_textEntry (key name : String) (s : Option String) :
    (textEntry name s).lookup key = if key = name then s.map .text else none := by
  by_cases hk : key = name
  · cases s <;> simp [textEntry, hk]
  · have hb : (key == name) = false := by simpa using hk
    cases s <;> simp [textEntry, List.lookup_cons, hb, hk]

theorem lookup_listEntry (key name : String) (items : List Tree) :
    (listEntry name items).lookup key = if key = name then Tree.items? items else none := by
  by_cases hk : key = name
  · cases items <;> simp [listEntry, Tree.items?, hk]
  · have hb : (key == name) = false := by simpa using hk
    cases items <;> simp [listEntry, List.lookup_cons, hb, hk]

namespace Method

variable (m : Method)

theorem entry?_name : m.describe.entry? "name" = some (.text m.name) := by
  simp [describe, Tree.entry?]

theorem entry?_assigns : m.describe.entry? "assigns" = m.assigns.map .text := by
  simp [describe, Tree.entry?, List.lookup_append, lookup_textEntry, lookup_listEntry,
    List.lookup_cons]

theorem entry?_parameters :
    m.describe.entry? "parameters" = Tree.items? (m.parameters.map (·.describe)) := by
  simp [describe, Tree.entry?, List.lookup_append, lookup_textEntry, lookup_listEntry,
    List.lookup_cons]

theorem entry?_rules : m.describe.entry? "rules" = Tree.items? (m.rules.map (·.describe)) := by
  simp [describe, Tree.entry?, List.lookup_append, lookup_textEntry, lookup_listEntry,
    List.lookup_cons]

variable {m} {n : Method}

theorem rules_of_describe_eq (h : m.describe = n.describe) :
    m.rules.map (·.describe) = n.rules.map (·.describe) := by
  have hentry := congrArg (Tree.entry? "rules") h
  rw [entry?_rules, entry?_rules] at hentry
  exact Tree.items?_injective hentry

theorem agree_of_describe_eq (hm : ∀ r ∈ m.rules, r.IsWhole) (hn : ∀ r ∈ n.rules, r.IsWhole)
    (h : m.describe = n.describe) : m.Agree n := by
  have hname := congrArg (Tree.entry? "name") h
  have hassigns := congrArg (Tree.entry? "assigns") h
  have hparameters := congrArg (Tree.entry? "parameters") h
  rw [entry?_name, entry?_name] at hname
  rw [entry?_assigns, entry?_assigns] at hassigns
  rw [entry?_parameters, entry?_parameters] at hparameters
  refine ⟨?_, ?_, ?_, Rule.forall₂_agree hm hn (rules_of_describe_eq h)⟩
  · simpa using hname
  · exact Option.map_injective (fun _ _ => Tree.text.inj) hassigns
  · have hall := forall₂_of_map_eq (R := fun p q : Parameter => p.describe = q.describe)
      (fun _ _ _ _ he => he) (Tree.items?_injective hparameters)
    apply map_eq_map_of_forall₂ hall
    intro p q hpq
    simp only [Parameter.describe, Tree.fields.injEq, List.cons.injEq, Prod.mk.injEq,
      Tree.flag.injEq, and_true, true_and] at hpq
    exact hpq.2.2

end Method

namespace Resolution

variable {c : ClassDescriptor} {fields : List ResolvedField}

theorem isWhole_of_mem_rules (h : Resolution c fields) (hc : c.IsWhole) {f : ResolvedField}
    (hf : f ∈ fields) : ∀ r ∈ f.rules, r.IsWhole := by
  intro r hr
  obtain ⟨g, hg, -, k, hk, hkr⟩ := h.exists_constraint hf hr
  exact ⟨c.name, g, k, hkr, hc g hg k hk⟩

theorem isWhole_of_mem_setters (h : Resolution c fields) (hc : c.IsWhole) {m : Method}
    (hm : m ∈ (specOf c fields).setters) : ∀ r ∈ m.rules, r.IsWhole := by
  obtain ⟨f, hf, rfl⟩ := List.mem_map.mp hm
  exact h.isWhole_of_mem_rules hc hf

theorem isWhole_of_mem_validate (h : Resolution c fields) (hc : c.IsWhole) :
    ∀ r ∈ (specOf c fields).validate.rules, r.IsWhole := by
  intro r hr
  obtain ⟨f, hf, hrf⟩ := List.mem_flatMap.mp hr
  exact h.isWhole_of_mem_rules hc hf r hrf

end Resolution

/-- Derived builders with equal descriptions agree. -/
theorem BuilderSpec.agree_of_describe_eq {c d : ClassDescriptor} {s t : BuilderSpec}
    (hs : assemble c = .ok s) (ht : assemble d = .ok t) (hc : c.IsWhole) (hd : d.IsWhole)
    (h : s.describe = t.describe) : s.Agree t := by
  obtain ⟨fields, hfs, rfl⟩ := Resolution.of_assemble hs
  obtain ⟨others, hft, rfl⟩ := Resolution.of_assemble ht
  simp only [describe, describeWith, methods, Tree.fields.injEq, List.cons.injEq, Prod.mk.injEq,
    Tree.text.injEq, Tree.list.injEq, List.map_cons, List.map_append, List.map_nil, true_and,
    and_true] at h
  obtain ⟨-, hqualified, -, -, hfields, -, -, hmethods⟩ := h
  -- Behind the setters both have two methods, of which the second validates.
  obtain ⟨hsetters, hlast⟩ := List.append_inj' hmethods rfl
  have hvalidate := (List.cons.inj (List.cons.inj hlast).2).1
  refine ⟨hqualified, ?_, ?_, ?_⟩
  · have hall := forall₂_of_map_eq (R := fun f g : FieldSpec => f.describe = g.describe)
      (fun _ _ _ _ he => he) hfields
    apply map_eq_map_of_forall₂ hall
    intro f g hfg
    simp only [FieldSpec.describe, Tree.fields.injEq, List.cons.injEq, Prod.mk.injEq,
      Tree.text.injEq, and_true, true_and] at hfg
    exact hfg.1
  · refine forall₂_of_map_eq ?_ hsetters
    intro m hm n hn he
    exact Method.agree_of_describe_eq (hfs.isWhole_of_mem_setters hc hm)
      (hft.isWhole_of_mem_setters hd hn) he
  · exact Rule.forall₂_agree (hfs.isWhole_of_mem_validate hc) (hft.isWhole_of_mem_validate hd)
      (Method.rules_of_describe_eq hvalidate)

end FluentBuilder
