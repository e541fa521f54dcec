import FluentBuilder.Proofs.TypeRef.Reading

/-!
Types without a name. The parts of an accepted text are the texts of the components of its type;
none of them is blank, and a component has no name exactly if its text starts with its bracket.
-/

namespace FluentBuilder.TypeRef

open Text (Blank trim)

/-- What a type is made of: the type itself, and what its element and its arguments are made of. -/
inductive Component (u : TypeRef) : TypeRef → Prop
  | self : Component u u
  | element {t e : TypeRef} : t.element = some e → Component u e → Component u t
  | argument {t a : TypeRef} : a ∈ t.arguments → Component u a → Component u t

/-- The texts of types inside a text: the text itself, the text of its element and the texts of its
arguments, with what is inside them. -/
inductive PartOf (p : List Char) : List Char → Prop
  | self : PartOf p p
  | element {x b : List Char} : Blank b → PartOf p x → PartOf p (x ++ '[' :: ']' :: b)
  | argument {base b q : List Char} {ps : List (List Char)} : '<' ∉ base → Blank b →
      (∀ r ∈ ps, Sealed r) → q ∈ ps → PartOf p q →
      PartOf p (base ++ '<' :: ([','].intercalate ps ++ '>' :: b))

/-- Brackets with nothing but blanks in front of them. -/
def Baseless (p : List Char) : Prop :=
  ∃ base inner b, Blank base ∧ Blank b ∧ p = base ++ '<' :: (inner ++ '>' :: b)

theorem name_leaf (name : String) : (leaf name).name = name := by
  unfold leaf
  split_ifs <;> rfl

theorem name_generic (name : String) (args : List TypeRef) : (generic name args).name = name := by
  unfold generic
  split_ifs <;> rfl

theorem component_leaf_iff {u : TypeRef} {name : String} :
    Component u (leaf name) ↔ u = leaf name := by
  have hparts : (leaf name).element = none ∧ (leaf name).arguments = [] := by
    unfold leaf
    split_ifs <;> exact ⟨rfl, rfl⟩
  constructor
  · rintro (_ | ⟨he, _⟩ | ⟨ha, _⟩)
    · rfl
    · rw [hparts.1] at he
      cases he
    · rw [hparts.2] at ha
      cases ha
  · rintro rfl
    exact .self

theorem component_arrayOf_iff {u e : TypeRef} :
    Component u (arrayOf e) ↔ u = arrayOf e ∨ Component u e := by
  constructor
  · rintro (_ | ⟨he, hu⟩ | ⟨ha, _⟩)
    · exact .inl rfl
    · exact .inr (Option.some.inj he ▸ hu)
    · cases ha
  · rintro (rfl | hu)
    · exact .self
    · exact .element rfl hu

theorem component_generic_iff {u : TypeRef} {name : String} {args : List TypeRef} :
    Component u (generic name args) ↔ u = generic name args ∨ ∃ a ∈ args, Component u a := by
  have hargs : (generic name args).arguments = args := by
    unfold generic
    split_ifs <;> rfl
  -- The element of a sequence is one of its arguments.
  have helement {e : TypeRef} (he : (generic name args).element = some e) : e ∈ args := by
    unfold generic at he
    split_ifs at he
    exact List.mem_of_getLast? he
  constructor
  · rintro (_ | ⟨he, hu⟩ | ⟨ha, hu⟩)
    · exact .inl rfl
    · exact .inr ⟨_, helement he, hu⟩
    · exact .inr ⟨_, hargs ▸ ha, hu⟩
  · rintro (rfl | ⟨a, ha, hu⟩)
    · exact .self
    · exact .argument (hargs.symm ▸ ha) hu

theorem PartOf.exists_component {p cs : List Char} {t : TypeRef} (hp : PartOf p cs)
    (h : parse cs = .ok t) : ∃ u, parse p = .ok u ∧ Component u t := by
  induction hp generalizing t with
  | self => exact ⟨t, h, .self⟩
  | @element x b hb _ ih =>
    obtain ⟨e, he, rfl⟩ := (parse_array_eq_ok_iff x hb t).mp h
    obtain ⟨u, hu, hc⟩ := ih he
    exact ⟨u, hu, component_arrayOf_iff.mpr (.inr hc)⟩
  | @argument base b q ps ho hb hs hq _ ih =>
    obtain ⟨args, hne, hjoin, hsealed, hargs, rfl⟩ := (parse_enclosed_eq_ok_iff ho _ hb t).mp h
    have hcut := pieces?_intercalate (List.ne_nil_of_mem hq) hs
    have hsome : args.map Prod.fst ≠ [] := by simpa using hne
    rw [← hjoin, pieces?_intercalate hsome (List.forall_mem_map.mpr hsealed)] at hcut
    obtain rfl := Option.some.inj hcut
    obtain ⟨a, ha, rfl⟩ := List.mem_map.mp hq
    obtain ⟨u, hu, hc⟩ := ih (hargs a ha)
    exact ⟨u, hu, component_generic_iff.mpr (.inr ⟨a.2, List.mem_map_of_mem ha, hc⟩)⟩

theorem Denotes.exists_partOf {cs : List Char} {t u : TypeRef} (h : Denotes cs t)
    (hu : Component u t) : ∃ p, PartOf p cs ∧ Denotes p u := by
  induction h with
  | @leaf cs hb hm ho =>
    obtain rfl := component_leaf_iff.mp hu
    exact ⟨cs, .self, .leaf hb hm ho⟩
  | @array x b e hb he ih =>
    rcases component_arrayOf_iff.mp hu with rfl | hu
    · exact ⟨_, .self, .array hb he⟩
    · obtain ⟨p, hp, hd⟩ := ih hu
      exact ⟨p, .element hb hp, hd⟩
  | @generic base b args ho hb hne hs hargs ih =>
    rcases component_generic_iff.mp hu with rfl | ⟨t, ht, hu⟩
    · exact ⟨_, .self, .generic ho hb hne hs hargs⟩
    · obtain ⟨a, ha, rfl⟩ := List.mem_map.mp ht
      obtain ⟨p, hp, hd⟩ := ih a ha hu
      have hfst : a.1 ∈ args.map Prod.fst := List.mem_map_of_mem ha
      exact ⟨p, .argument ho hb (List.forall_mem_map.mpr hs) hfst hp, hd⟩

/-- The name is missing exactly if the text starts with its bracket. -/
theorem Denotes.name_eq_empty_iff {p : List Char} {u : TypeRef} (h : Denotes p u) :
    u.name = "" ↔ Baseless p := by
  constructor
  · intro hn
    cases h with
    | leaf hb _ _ =>
      rw [name_leaf, String.ofList_eq_empty_iff, Text.trim_eq_nil_iff] at hn
      exact absurd hn hb
    | array hb _ =>
      have := congrArg String.toList hn
      simp [arrayOf] at this
    | @generic base b args ho hb hne hs hargs =>
      rw [name_generic, String.ofList_eq_empty_iff, Text.trim_eq_nil_iff] at hn
      exact ⟨base, _, b, hn, hb, rfl⟩
  · rintro ⟨base, inner, b, hbase, hb, rfl⟩
    obtain ⟨args, -, -, -, -, rfl⟩ :=
      (parse_enclosed_eq_ok_iff (plain_of_blank hbase).noOpen inner hb u).mp h.parse_eq
    rw [name_generic, Text.trim_of_blank hbase]

/-- No part of an accepted text is blank, so there is no empty element and no empty argument; but a
type without a name comes out wherever a part starts with its bracket. -/
theorem nameless_iff {s : String} {t : TypeRef} (h : ofString s = .ok t) :
    (∀ p, PartOf p s.toList → ¬ Blank p) ∧
      ((∃ u, Component u t ∧ u.name = "") ↔ ∃ p, PartOf p s.toList ∧ Baseless p) := by
  refine ⟨fun p hp => ?_, ?_, ?_⟩
  · obtain ⟨u, hu, -⟩ := hp.exists_component h
    exact not_blank_of_parse hu
  · rintro ⟨u, hu, hn⟩
    obtain ⟨p, hp, hd⟩ := (parse_eq_ok_iff.mp h).exists_partOf hu
    exact ⟨p, hp, hd.name_eq_empty_iff.mp hn⟩
  · rintro ⟨p, hp, hbase⟩
    obtain ⟨u, hu, hc⟩ := hp.exists_component h
    exact ⟨u, hc, (parse_eq_ok_iff.mp hu).name_eq_empty_iff.mpr hbase⟩

theorem nameless_iff_map :
    ∃ t, ofString "Map<K, List<<V>>[]>" = .ok t ∧
      (∀ p, PartOf p "Map<K, List<<V>>[]>".toList → ¬ Blank p) ∧
      ((∃ u, Component u t ∧ u.name = "") ↔
        ∃ p, PartOf p "Map<K, List<<V>>[]>".toList ∧ Baseless p) := by
  obtain ⟨t, ht⟩ := exists_eq_ok_of_toBool (x := ofString "Map<K, List<<V>>[]>")
    (by decide +kernel)
  exact ⟨t, ht, nameless_iff ht⟩

/-- The element of this list has no name. -/
theorem accepts_nameless_element :
    ∃ t e, ofString "List<<int>>" = .ok t ∧ t.element = some e ∧ Component e t ∧ e.name = "" := by
  let e := generic "" [leaf "int"]
  have ht : ofString "List<<int>>" = .ok (generic "List" [e]) := by cbv
  exact ⟨generic "List" [e], e, ht, by decide, .element (by decide) .self, by decide⟩

end FluentBuilder.TypeRef
