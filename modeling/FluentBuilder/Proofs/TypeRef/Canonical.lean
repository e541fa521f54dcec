import FluentBuilder.Proofs.TypeRef.Rendering

/-!
Types in canonical form, and the texts that write them. The notation of a canonical type consists of
names, brackets and commas; with any blanks between these it is read as the type.
-/

namespace FluentBuilder.TypeRef

open Text (Blank trim)

/-- A name that is read as it stands: no brackets or commas in it, no blanks around it, and no array
mark at its end. -/
structure TypeName (name : String) : Prop where
  nonempty : name ≠ ""
  plain : Plain name.toList
  trimmed : trim name.toList = name.toList
  unmarked : ¬ ['[', ']'] <:+ name.toList

instance (name : String) : Decidable (TypeName name) :=
  decidable_of_iff (name ≠ "" ∧ Plain name.toList ∧ trim name.toList = name.toList ∧
      ¬ ['[', ']'] <:+ name.toList)
    ⟨fun ⟨hne, hp, ht, hm⟩ => ⟨hne, hp, ht, hm⟩,
      fun ⟨hne, hp, ht, hm⟩ => ⟨hne, hp, ht, hm⟩⟩

/-- The kind that a name alone gives. -/
inductive KindOfName (name : String) : TypeKind → Prop
  | scalar : name ∈ scalarNames → KindOfName name .scalar
  | text : name ∈ textNames → KindOfName name .text
  | sequence : name ∈ sequenceNames → KindOfName name .sequence
  | reference : name ∉ scalarNames → name ∉ textNames → name ∉ sequenceNames →
      KindOfName name .reference

/-- Names, names with arguments, of which a sequence has the last one as its element, and arrays of
such types. -/
inductive Canonical : TypeRef → Prop
  | leaf {name : String} {kind : TypeKind} : TypeName name → KindOfName name kind →
      Canonical { name, kind }
  | sequence {name : String} {arguments : List TypeRef} {last : TypeRef} : TypeName name →
      name ∈ sequenceNames → arguments.getLast? = some last → (∀ a ∈ arguments, Canonical a) →
      Canonical { name, kind := .sequence, element := some last, arguments }
  | reference {name : String} {arguments : List TypeRef} : TypeName name →
      name ∉ sequenceNames → arguments ≠ [] → (∀ a ∈ arguments, Canonical a) →
      Canonical { name, arguments }
  | array {e : TypeRef} : Canonical e → Canonical (arrayOf e)

mutual

/-- The names, brackets and commas that the notation of a type consists of. -/
def tokens : TypeRef → List (List Char)
  | ⟨_, .array, some element, _⟩ => element.tokens ++ [['[', ']']]
  | ⟨name, _, _, []⟩ => [name.toList]
  | ⟨name, _, _, argument :: rest⟩ =>
    name.toList :: ['<'] :: ([[',']].intercalate (tokensAll (argument :: rest)) ++ [['>']])

def tokensAll : List TypeRef → List (List (List Char))
  | [] => []
  | t :: rest => t.tokens :: tokensAll rest

end

/-- A text of these tokens in their order, with any blanks before, between and behind them. -/
inductive Spaced : List (List Char) → List Char → Prop
  | nil {b : List Char} : Blank b → Spaced [] b
  | cons {b k cs : List Char} {ks : List (List Char)} : Blank b → Spaced ks cs →
      Spaced (k :: ks) (b ++ k ++ cs)

section Spacing

variable {b cs : List Char} {ks ls : List (List Char)}

theorem spaced_nil_iff : Spaced [] cs ↔ Blank cs := by
  constructor
  · rintro ⟨hb⟩
    exact hb
  · exact .nil

theorem spaced_cons_iff {k : List Char} :
    Spaced (k :: ks) cs ↔ ∃ b rest, Blank b ∧ Spaced ks rest ∧ cs = b ++ k ++ rest := by
  constructor
  · rintro (_ | ⟨hb, hr⟩)
    exact ⟨_, _, hb, hr, rfl⟩
  · rintro ⟨b, rest, hb, hr, rfl⟩
    exact .cons hb hr

theorem Spaced.blank_append (hb : Blank b) (h : Spaced ks cs) : Spaced ks (b ++ cs) := by
  cases h with
  | nil hc => exact .nil (Text.blank_append_iff.mpr ⟨hb, hc⟩)
  | cons hc hr =>
    rw [← List.append_assoc, ← List.append_assoc]
    exact .cons (Text.blank_append_iff.mpr ⟨hb, hc⟩) hr

/-- A spacing of tokens in a row can be cut between any two of them. -/
theorem spaced_append_iff :
    Spaced (ks ++ ls) cs ↔ ∃ x y, Spaced ks x ∧ Spaced ls y ∧ cs = x ++ y := by
  induction ks generalizing cs with
  | nil =>
    constructor
    · exact fun h => ⟨[], cs, .nil Text.blank_nil, h, rfl⟩
    · rintro ⟨x, y, hx, hy, rfl⟩
      exact hy.blank_append (spaced_nil_iff.mp hx)
  | cons k ks ih =>
    constructor
    · intro h
      obtain ⟨b, rest, hb, hr, rfl⟩ := spaced_cons_iff.mp h
      obtain ⟨x, y, hx, hy, rfl⟩ := ih.mp hr
      exact ⟨b ++ k ++ x, y, .cons hb hx, hy, by simp⟩
    · rintro ⟨x, y, hx, hy, rfl⟩
      obtain ⟨b, rest, hb, hr, rfl⟩ := spaced_cons_iff.mp hx
      rw [List.append_assoc]
      exact .cons hb (ih.mpr ⟨rest, y, hr, hy, rfl⟩)

theorem Spaced.append_blank (h : Spaced ks cs) (hb : Blank b) : Spaced ks (cs ++ b) := by
  rw [← List.append_nil ks]
  exact spaced_append_iff.mpr ⟨cs, b, h, .nil hb, rfl⟩

/-- The blanks around a token go with the tokens on either side. -/
theorem spaced_append_cons_iff {k : List Char} :
    Spaced (ks ++ k :: ls) cs ↔ ∃ x y, Spaced ks x ∧ Spaced ls y ∧ cs = x ++ k ++ y := by
  constructor
  · intro h
    obtain ⟨x, y, hx, hy, rfl⟩ := spaced_append_iff.mp h
    obtain ⟨b, rest, hb, hr, rfl⟩ := spaced_cons_iff.mp hy
    exact ⟨x ++ b, rest, hx.append_blank hb, hr, by simp⟩
  · rintro ⟨x, y, hx, hy, rfl⟩
    rw [List.append_assoc]
    exact spaced_append_iff.mpr ⟨x, k ++ y, hx, .cons Text.blank_nil hy, rfl⟩

theorem spaced_token (k : List Char) : Spaced [k] k :=
  spaced_append_cons_iff.mpr
    ⟨[], [], .nil Text.blank_nil, .nil Text.blank_nil, by simp⟩

/-- The tokens of arguments with commas between them are spaced exactly if the text joins a spacing
of each argument. -/
theorem spaced_arguments_iff {args : List TypeRef} (hne : args ≠ []) :
    Spaced ([[',']].intercalate (args.map tokens)) cs ↔
      ∃ texts : List (List Char × TypeRef), texts.map Prod.snd = args ∧
        [','].intercalate (texts.map Prod.fst) = cs ∧ ∀ p ∈ texts, Spaced p.2.tokens p.1 := by
  induction args generalizing cs with
  | nil => exact absurd rfl hne
  | cons a rest ih =>
    cases rest with
    | nil =>
      constructor
      · intro h
        exact ⟨[(cs, a)], rfl, by simp, by simpa using h⟩
      · rintro ⟨texts, hargs, rfl, hall⟩
        obtain ⟨p, ps, rfl, rfl, hnil⟩ := List.map_eq_cons_iff.mp hargs
        obtain rfl := List.map_eq_nil_iff.mp hnil
        simpa using hall p (by simp)
    | cons a' rest =>
      rw [List.map_cons, List.map_cons, List.intercalate_cons_cons, List.append_assoc,
        List.singleton_append, spaced_append_cons_iff, ← List.map_cons]
      constructor
      · rintro ⟨x, y, hx, hy, rfl⟩
        obtain ⟨texts, hargs, rfl, hall⟩ := (ih (List.cons_ne_nil a' rest)).mp hy
        obtain ⟨p, ps, rfl, -, -⟩ := List.map_eq_cons_iff.mp hargs
        refine ⟨(x, a) :: p :: ps, by rw [List.map_cons, hargs], by simp, ?_⟩
        exact List.forall_mem_cons.mpr ⟨hx, hall⟩
      · rintro ⟨texts, hargs, rfl, hall⟩
        obtain ⟨p, ps, rfl, rfl, hrest⟩ := List.map_eq_cons_iff.mp hargs
        obtain ⟨q, qs, rfl, -, -⟩ := List.map_eq_cons_iff.mp hrest
        obtain ⟨hp, hps⟩ := List.forall_mem_cons.mp hall
        exact ⟨p.1, _, hp, (ih (List.cons_ne_nil a' rest)).mpr ⟨q :: qs, hrest, rfl, hps⟩, by simp⟩

end Spacing

theorem KindOfName.eq_leaf {name : String} {kind : TypeKind} (h : KindOfName name kind) :
    ({ name, kind } : TypeRef) = TypeRef.leaf name := by
  have htext : ∀ n ∈ textNames, n ∉ scalarNames := by decide
  have hscalar : ∀ n ∈ sequenceNames, n ∉ scalarNames := by decide
  have hsequence : ∀ n ∈ sequenceNames, n ∉ textNames := by decide
  unfold TypeRef.leaf
  cases h with
  | scalar hn => simp [hn]
  | text hn => simp [hn, htext name hn]
  | sequence hn => simp [hn, hscalar name hn, hsequence name hn]
  | reference h1 h2 h3 => simp [h1, h2, h3]

/-- A canonical type is what its name, or its name and its arguments, are read as, or an array. -/
@[elab_as_elim]
theorem Canonical.induction {motive : TypeRef → Prop}
    (leaf : ∀ {name : String}, TypeName name → motive (TypeRef.leaf name))
    (generic : ∀ {name : String} {args : List TypeRef}, TypeName name → args ≠ [] →
      (∀ a ∈ args, motive a) → motive (TypeRef.generic name args))
    (array : ∀ {e : TypeRef}, motive e → motive (arrayOf e)) {t : TypeRef} (h : Canonical t) :
    motive t := by
  induction h with
  | leaf hn hk =>
    rw [hk.eq_leaf]
    exact leaf hn
  | @sequence name args last hn hm hl _ ih =>
    have heq : TypeRef.generic name args =
        { name, kind := .sequence, element := some last, arguments := args } := by
      simp [TypeRef.generic, hm, hl]
    rw [← heq]
    exact generic hn (by rintro rfl; cases hl) ih
  | @reference name args hn hm hne _ ih =>
    have heq : TypeRef.generic name args = { name, arguments := args } := by
      simp [TypeRef.generic, hm]
    rw [← heq]
    exact generic hn hne ih
  | array _ ih => exact array ih

theorem tokensAll_eq_map (ts : List TypeRef) : tokensAll ts = ts.map tokens := by
  induction ts with
  | nil => rfl
  | cons t ts ih => rw [tokensAll, ih, List.map_cons]

theorem tokens_leaf (name : String) : (leaf name).tokens = [name.toList] := by
  unfold leaf
  split_ifs <;> simp [tokens]

theorem tokens_arrayOf (e : TypeRef) : (arrayOf e).tokens = e.tokens ++ [['[', ']']] := by
  simp [arrayOf, tokens]

theorem tokens_generic (name : String) {args : List TypeRef} (hne : args ≠ []) :
    (generic name args).tokens =
      name.toList :: ['<'] :: ([[',']].intercalate (args.map tokens) ++ [['>']]) := by
  obtain ⟨a, rest, rfl⟩ := List.exists_cons_of_ne_nil hne
  unfold generic
  split_ifs <;> simp [tokens, tokensAll_eq_map]

/-- Between the tokens of a rendering there is a blank behind each comma, and nothing else. -/
theorem Canonical.spaced_render {t : TypeRef} (h : Canonical t) :
    Spaced t.tokens t.render.toList := by
  have hend : Spaced [] [] := .nil Text.blank_nil
  refine Canonical.induction ?leaf ?generic ?array h
  case leaf =>
    intro name _
    rw [tokens_leaf, render_leaf]
    exact spaced_token name.toList
  case generic =>
    intro name args _ hne ih
    have hblank : Blank [' '] := Text.blank_singleton_iff.mpr (by decide)
    have hargs : Spaced ([[',']].intercalate (args.map tokens))
        ([',', ' '].intercalate (args.map fun a => a.render.toList)) :=
      (spaced_arguments_iff hne).mpr
        (exists_rendered_texts (P := fun cs a => Spaced a.tokens cs) hne
          (fun cs a hs => hs.blank_append hblank) ih)
    have hclosed : Spaced ([[',']].intercalate (args.map tokens) ++ [['>']])
        ([',', ' '].intercalate (args.map fun a => a.render.toList) ++ ['>']) :=
      spaced_append_cons_iff.mpr ⟨_, [], hargs, hend, by simp⟩
    rw [tokens_generic name hne, toList_render_generic name hne, ← List.singleton_append]
    exact spaced_append_cons_iff.mpr ⟨_, _, spaced_token name.toList, hclosed, by simp⟩
  case array =>
    intro e ih
    rw [tokens_arrayOf, toList_render_arrayOf]
    exact spaced_append_cons_iff.mpr ⟨_, [], ih, hend, by simp⟩

theorem TypeName.plain_of_spaced {name : String} (hn : TypeName name) {cs : List Char}
    (h : Spaced [name.toList] cs) : Plain cs ∧ trim cs = name.toList := by
  obtain ⟨b, d, hb, hd, rfl⟩ := spaced_cons_iff.mp h
  have hd := spaced_nil_iff.mp hd
  refine ⟨((plain_of_blank hb).append hn.plain).append (plain_of_blank hd), ?_⟩
  rw [Text.trim_append_blank hd, Text.trim_blank_append hb, hn.trimmed]

theorem TypeName.denotes_leaf {name : String} (hn : TypeName name) {cs : List Char}
    (h : Spaced [name.toList] cs) : Denotes cs (leaf name) := by
  obtain ⟨hplain, htrim⟩ := hn.plain_of_spaced h
  have hblank : ¬ Blank cs := by
    rw [← Text.trim_eq_nil_iff, htrim, String.toList_eq_nil_iff]
    exact hn.nonempty
  have hmark : ¬ ['[', ']'] <:+ trim cs := htrim ▸ hn.unmarked
  have hleaf := Denotes.leaf hblank hmark hplain.noOpen
  rwa [htrim, String.ofList_toList] at hleaf

theorem Canonical.denotes_of_spaced {t : TypeRef} (h : Canonical t) :
    ∀ cs, Spaced t.tokens cs → Denotes cs t ∧ Sealed cs := by
  refine Canonical.induction ?leaf ?generic ?array h
  case leaf =>
    intro name hn cs hs
    rw [tokens_leaf] at hs
    exact ⟨hn.denotes_leaf hs, (hn.plain_of_spaced hs).1.sealed⟩
  case generic =>
    intro name args hn hne ih cs hs
    rw [tokens_generic name hne, ← List.singleton_append, spaced_append_cons_iff] at hs
    obtain ⟨base, rest, hbase, hrest, rfl⟩ := hs
    obtain ⟨inner, d, hinner, hd, rfl⟩ := spaced_append_cons_iff.mp hrest
    have hd := spaced_nil_iff.mp hd
    obtain ⟨texts, rfl, rfl, hall⟩ := (spaced_arguments_iff hne).mp hinner
    obtain ⟨hplain, htrim⟩ := hn.plain_of_spaced hbase
    have hargs (p) (hp : p ∈ texts) : Denotes p.1 p.2 ∧ Sealed p.1 :=
      ih p.2 (List.mem_map_of_mem hp) p.1 (hall p hp)
    have hsome : texts ≠ [] := by simpa using hne
    have hdenotes := Denotes.generic hplain.noOpen hd hsome
      (fun p hp => (hargs p hp).2) fun p hp => (hargs p hp).1
    have hbalanced := balanced_arguments fun p hp => (hargs p hp).2
    have hsealed := hbalanced.sealed_between hplain hd
    rw [htrim, String.ofList_toList] at hdenotes
    constructor
    · simpa using hdenotes
    · simpa using hsealed
  case array =>
    intro e ih cs hs
    rw [tokens_arrayOf, spaced_append_cons_iff] at hs
    obtain ⟨x, d, hx, hd, rfl⟩ := hs
    have hd := spaced_nil_iff.mp hd
    obtain ⟨hdenotes, hsealed⟩ := ih x hx
    constructor
    · simpa using Denotes.array hd hdenotes
    · exact (hsealed.append plain_arrayMark.sealed).append (plain_of_blank hd).sealed

/-- Every spacing of a canonical type's notation, of which its rendering is one, is read as the
type. -/
theorem ofString_of_spaced {t : TypeRef} (h : Canonical t) :
    Spaced t.tokens t.render.toList ∧
      ∀ s : String, Spaced t.tokens s.toList → ofString s = .ok t :=
  ⟨h.spaced_render, fun s hs => (h.denotes_of_spaced s.toList hs).1.parse_eq⟩

theorem ofString_of_spaced_map :
    ∃ t, Canonical t ∧ Spaced t.tokens t.render.toList ∧
      Spaced t.tokens " Map < K,List<V >\t[] > ".toList ∧
      ofString " Map < K,List<V >\t[] > " = .ok t := by
  let v : TypeRef := { name := "V" }
  let k : TypeRef := { name := "K" }
  let list : TypeRef := { name := "List", kind := .sequence, element := some v, arguments := [v] }
  let map : TypeRef :=
    { name := "Map", kind := .sequence, element := some (arrayOf list),
      arguments := [k, arrayOf list] }
  have hv : Canonical v :=
    .leaf (by decide +kernel) (.reference (by decide) (by decide) (by decide))
  have hk : Canonical k :=
    .leaf (by decide +kernel) (.reference (by decide) (by decide) (by decide))
  have hlist : Canonical list := .sequence (by decide +kernel) (by decide) rfl (by simpa using hv)
  have hmap : Canonical map :=
    .sequence (by decide +kernel) (by decide) rfl (by simpa using ⟨hk, .array hlist⟩)
  have hspaced : Spaced map.tokens " Map < K,List<V >\t[] > ".toList := by
    have hnone : Blank [] := Text.blank_nil
    have hblank : Blank [' '] := Text.blank_singleton_iff.mpr (by decide)
    have htab : Blank ['\t'] := Text.blank_singleton_iff.mpr (by decide)
    exact .cons hblank <| .cons hblank <| .cons hblank <| .cons hnone <| .cons hnone <|
      .cons hnone <| .cons hnone <| .cons hblank <| .cons htab <| .cons hblank <| .nil hblank
  have h := ofString_of_spaced hmap
  exact ⟨map, hmap, h.1, hspaced, h.2 _ hspaced⟩

end FluentBuilder.TypeRef
