import FluentBuilder.Class.Generics
import FluentBuilder.Proofs.Class.Identifier
import FluentBuilder.Proofs.Class.Offence
import FluentBuilder.Proofs.TypeRef.Canonical
import FluentBuilder.Proofs.TypeRef.Nameless

/-!
The types that the methods of a builder return. They are written for a class and its type parameters
without the help of `TypeRef`; read as declared types, they give the name with just these parameters.
-/

namespace FluentBuilder

namespace TypeRef

variable {name : String} {parameters : List String}

theorem TypeName.of_isName (h : isName name = true) : TypeName name where
  nonempty := ne_empty_of_isName h
  plain :=
    { noOpen := notMem_of_isName h (by decide) (by decide +kernel) (by decide +kernel)
      noClose := notMem_of_isName h (by decide) (by decide +kernel) (by decide +kernel)
      noComma := notMem_of_isName h (by decide) (by decide +kernel) (by decide +kernel) }
  trimmed := Text.trim_eq_self fun _ hc => not_isBlank_of_isName h hc
  unmarked hmark := by
    have hclose : ']' ∉ name.toList :=
      notMem_of_isName h (by decide) (by decide +kernel) (by decide +kernel)
    exact hclose (hmark.subset (by simp))

/-- A name applied to parameters, each of which is a name alone. -/
def applied (name : String) (parameters : List String) : TypeRef :=
  if parameters = [] then leaf name else generic name (parameters.map leaf)

theorem name_applied (name : String) (parameters : List String) :
    (applied name parameters).name = name := by
  unfold applied
  split_ifs
  · exact name_leaf name
  · exact name_generic name _

theorem arguments_applied (name : String) (parameters : List String) :
    (applied name parameters).arguments = parameters.map leaf := by
  unfold applied leaf generic
  split_ifs with h <;> simp [h]

theorem render_applied (name : String) (parameters : List String) :
    (applied name parameters).render = parameterize name parameters := by
  cases parameters with
  | nil => exact render_leaf name
  | cons p ps =>
    apply String.toList_injective
    have hne : (p :: ps).map leaf ≠ [] := List.cons_ne_nil _ _
    rw [applied, if_neg (List.cons_ne_nil p ps), toList_render_generic name hne]
    simp [parameterize, render_leaf, Function.comp_def]

theorem ofString_parameterize (hname : TypeName name) (h : ∀ p ∈ parameters, TypeName p) :
    ofString (parameterize name parameters) = .ok (applied name parameters) := by
  have hdenotes : Denotes (applied name parameters).render.toList (applied name parameters) := by
    unfold applied
    split_ifs with hnone
    · rw [render_leaf]
      exact hname.denotes_leaf (spaced_token name.toList)
    · have hne : parameters.map leaf ≠ [] := by simpa using hnone
      apply Denotes.generic_rendered hname.plain.noOpen hname.trimmed hne
      rw [List.forall_mem_map]
      intro p hp
      rw [render_leaf]
      exact ⟨(h p hp).denotes_leaf (spaced_token p.toList), (h p hp).plain.sealed⟩
  rw [← render_applied]
  exact hdenotes.parse_eq

/-- The text is read as the type, and the type is written as the text; it has the name, and its
arguments are the parameters in their order, none with an element or arguments of its own. -/
structure IsReference (text name : String) (parameters : List String) (t : TypeRef) : Prop where
  read : ofString text = .ok t
  written : t.render = text
  name : t.name = name
  parameters : t.arguments.map (·.name) = parameters
  bare : ∀ a ∈ t.arguments, a.element = none ∧ a.arguments = []

theorem isReference_applied (hname : isName name = true) (h : ∀ p ∈ parameters, isName p = true) :
    IsReference (parameterize name parameters) name parameters (applied name parameters) where
  read := ofString_parameterize (.of_isName hname) fun p hp => .of_isName (h p hp)
  written := render_applied name parameters
  name := name_applied name parameters
  parameters := by
    rw [arguments_applied, List.map_map]
    simp [Function.comp_def, name_leaf]
  bare := by
    rw [arguments_applied, List.forall_mem_map]
    intro p _
    unfold leaf
    split_ifs <;> exact ⟨rfl, rfl⟩

end TypeRef

open TypeRef (IsReference)

/-- What a sound class and its builder are called in the types of methods is read back as the name
of the class, or of the builder, with the type parameters of the class. -/
theorem references_read_back {c : ClassDescriptor} (h : c.checkStructure = .ok ()) :
    (∃ t, IsReference c.sourceReference c.name c.typeParameters t) ∧
      ∃ t, IsReference c.builderReference "Builder" c.typeParameters t := by
  obtain ⟨hname, hparameters, -⟩ := c.checkStructure_eq_ok_iff_sound.mp h
  have hbuilder : isName "Builder" = true := by decide +kernel
  exact ⟨⟨_, TypeRef.isReference_applied hname hparameters.1⟩,
    ⟨_, TypeRef.isReference_applied hbuilder hparameters.1⟩⟩

/-- A class that has the name of a sequence type, and parameters with a dollar sign and a letter
beyond ASCII. -/
def atlas : ClassDescriptor := { name := "Map", typeParameters := ["K$", "Größe", "_"] }

theorem references_read_back_atlas :
    atlas.checkStructure = .ok () ∧ atlas.sourceReference = "Map<K$, Größe, _>" ∧
      (∃ t, IsReference "Map<K$, Größe, _>" "Map" ["K$", "Größe", "_"] t) ∧
      ∃ t, IsReference "Builder<K$, Größe, _>" "Builder" ["K$", "Größe", "_"] t := by
  have hsound : atlas.checkStructure = .ok () := by rfl
  have hsource : atlas.sourceReference = "Map<K$, Größe, _>" := by rfl
  have hbuilder : atlas.builderReference = "Builder<K$, Größe, _>" := by rfl
  have h := references_read_back hsound
  rw [hsource, hbuilder] at h
  exact ⟨hsound, hsource, h⟩

end FluentBuilder
