import FluentBuilder.Proofs.TypeRef.Reading

/-!
Rendering types that were read. Whatever text was accepted, the rendering of its type denotes the
type again, so it is a normal form of all texts that denote it.
-/

namespace FluentBuilder.TypeRef

open Text (Blank trim)

theorem renderAll_eq_map (ts : List TypeRef) : renderAll ts = ts.map render := by
  induction ts with
  | nil => rfl
  | cons t ts ih => rw [renderAll, ih, List.map_cons]

theorem render_leaf (name : String) : (leaf name).render = name := by
  unfold leaf
  split_ifs <;> simp [render]

theorem toList_render_arrayOf (e : TypeRef) :
    (arrayOf e).render.toList = e.render.toList ++ ['[', ']'] := by
  simp [arrayOf, render]

theorem toList_render_of_arguments {t : TypeRef} (hk : t.kind ≠ .array) (hne : t.arguments ≠ []) :
    t.render.toList = t.name.toList ++
      '<' :: ([',', ' '].intercalate (t.arguments.map fun a => a.render.toList) ++ ['>']) := by
  obtain ⟨name, kind, element, args⟩ := t
  obtain ⟨a, rest, rfl⟩ := List.exists_cons_of_ne_nil hne
  have hrender : render ⟨name, kind, element, a :: rest⟩ =
      name ++ "<" ++ ", ".intercalate (renderAll (a :: rest)) ++ ">" := by
    cases kind <;> first | rfl | exact absurd rfl hk
  rw [hrender, renderAll_eq_map]
  simp [Function.comp_def]

theorem toList_render_generic (name : String) {args : List TypeRef} (hne : args ≠ []) :
    (generic name args).render.toList = name.toList ++
      '<' :: ([',', ' '].intercalate (args.map fun a => a.render.toList) ++ ['>']) := by
  unfold generic
  split_ifs <;> exact toList_render_of_arguments (by simp) hne

/-- Behind a plain name the arguments are between brackets, so no comma of them is an outer one. -/
theorem sealed_render_generic {name : String} {args : List TypeRef} (hname : Plain name.toList)
    (hne : args ≠ []) (h : ∀ a ∈ args, Sealed a.render.toList) :
    Sealed (generic name args).render.toList := by
  have hsep : Balanced [',', ' '] := balanced_of_notMem (by decide) (by decide)
  have hinner := balanced_intercalate hsep
    (List.forall_mem_map.mpr fun a ha => (h a ha).toBalanced)
  rw [toList_render_generic name hne]
  exact hinner.sealed_between hname Text.blank_nil

/-- A blank behind each comma can as well stand in front of the text that follows. -/
theorem intercalate_comma_blank (p : List Char) (ps : List (List Char)) :
    [',', ' '].intercalate (p :: ps) = [','].intercalate (p :: ps.map (' ' :: ·)) := by
  induction ps generalizing p with
  | nil => simp
  | cons q ps ih =>
    rw [List.intercalate_cons_cons, ih q, List.map_cons, List.intercalate_cons_cons,
      List.intercalate_cons_cons_left]
    simp

/-- What holds of the rendering of each argument, and with a blank in front of it as well, holds of
the texts between the commas of all renderings. -/
theorem exists_rendered_texts {P : List Char → TypeRef → Prop} {args : List TypeRef}
    (hne : args ≠ []) (hblank : ∀ cs a, P cs a → P (' ' :: cs) a)
    (h : ∀ a ∈ args, P a.render.toList a) :
    ∃ texts : List (List Char × TypeRef), texts.map Prod.snd = args ∧
      [','].intercalate (texts.map Prod.fst) =
        [',', ' '].intercalate (args.map fun a => a.render.toList) ∧
      ∀ p ∈ texts, P p.1 p.2 := by
  obtain ⟨a, rest, rfl⟩ := List.exists_cons_of_ne_nil hne
  obtain ⟨ha, hrest⟩ := List.forall_mem_cons.mp h
  refine ⟨(a.render.toList, a) :: rest.map fun r => (' ' :: r.render.toList, r), ?_, ?_, ?_⟩
  · simp [Function.comp_def]
  · simp [intercalate_comma_blank, Function.comp_def]
  · exact List.forall_mem_cons.mpr
      ⟨ha, List.forall_mem_map.mpr fun r hr => hblank _ r (hrest r hr)⟩

theorem Denotes.blank_append {b cs : List Char} {t : TypeRef} (hb : Blank b)
    (h : Denotes cs t) : Denotes (b ++ cs) t := by
  rw [← parse_eq_ok_iff, parse_congr (Text.trim_blank_append hb cs)]
  exact h.parse_eq

theorem Denotes.generic_rendered {name : String} {args : List TypeRef} (ho : '<' ∉ name.toList)
    (hname : trim name.toList = name.toList) (hne : args ≠ [])
    (h : ∀ a ∈ args, Denotes a.render.toList a ∧ Sealed a.render.toList) :
    Denotes (TypeRef.generic name args).render.toList (TypeRef.generic name args) := by
  have hblank : Blank [' '] := Text.blank_singleton_iff.mpr (by decide)
  obtain ⟨texts, rfl, hjoin, hall⟩ := exists_rendered_texts
    (P := fun cs a => Denotes cs a ∧ Sealed cs) hne
    (fun cs a hp => ⟨hp.1.blank_append hblank, (plain_of_blank hblank).sealed.append hp.2⟩) h
  have hsome : texts ≠ [] := by simpa using hne
  have hgeneric := Denotes.generic ho Text.blank_nil hsome
    (fun p hp => (hall p hp).2) fun p hp => (hall p hp).1
  rw [toList_render_generic name hne, ← hjoin]
  rwa [hname, String.ofList_toList] at hgeneric

/-- The rendering denotes the type again, and an argument can be replaced by its rendering. -/
theorem Denotes.rendered {cs : List Char} {t : TypeRef} (h : Denotes cs t) :
    Denotes t.render.toList t ∧ (Sealed cs → Sealed t.render.toList) := by
  induction h with
  | @leaf cs hb hm ho =>
    rw [render_leaf, String.toList_ofList]
    refine ⟨?_, Sealed.trim⟩
    rw [← parse_eq_ok_iff, parse_trim]
    exact (Denotes.leaf hb hm ho).parse_eq
  | @array x b e hb _ ih =>
    rw [toList_render_arrayOf]
    refine ⟨.array Text.blank_nil ih.1, fun hs => ?_⟩
    have hx := hs.of_append_right (plain_arrayMark.append (plain_of_blank hb)).sealed
    exact (ih.2 hx).append plain_arrayMark.sealed
  | @generic base b args ho hb hne hs _ ih =>
    have hname : (String.ofList (trim base)).toList = trim base := String.toList_ofList
    have hargs : ∀ t ∈ args.map Prod.snd, Denotes t.render.toList t ∧ Sealed t.render.toList :=
      List.forall_mem_map.mpr fun a ha => ⟨(ih a ha).1, (ih a ha).2 (hs a ha)⟩
    have hsome : args.map Prod.snd ≠ [] := by simpa using hne
    refine ⟨.generic_rendered ?_ ?_ hsome hargs, fun hsealed => ?_⟩
    · rw [hname]
      exact mt (Text.mem_trim_iff (by decide)).mp ho
    · rw [hname, Text.trim_trim]
    · have hplain := (hsealed.plain_of_append ho).trim
      rw [← hname] at hplain
      exact sealed_render_generic hplain hsome fun a ha => (hargs a ha).2

/-- The rendering of what was read from an accepted text is read as the same type, and no other
type that was read has this rendering. -/
theorem ofString_render {s : String} {t : TypeRef} (h : ofString s = .ok t) :
    ofString t.render = .ok t ∧
      ∀ s' t', ofString s' = .ok t' → t'.render = t.render → t' = t := by
  have again {s : String} {t : TypeRef} (h : ofString s = .ok t) : ofString t.render = .ok t :=
    (parse_eq_ok_iff.mp h).rendered.1.parse_eq
  refine ⟨again h, fun s' t' h' hr => ?_⟩
  have ht := again h'
  rw [hr, again h] at ht
  exact (Except.ok.inj ht).symm

theorem ofString_render_odd :
    ∃ t, ofString " a>,b <List<x[] >, <y>> []" = .ok t ∧ ofString t.render = .ok t ∧
      ∀ s' t', ofString s' = .ok t' → t'.render = t.render → t' = t := by
  obtain ⟨t, ht⟩ := exists_eq_ok_of_toBool (x := ofString " a>,b <List<x[] >, <y>> []")
    (by decide +kernel)
  exact ⟨t, ht, ofString_render ht⟩

end FluentBuilder.TypeRef
