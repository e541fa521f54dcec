import FluentBuilder.Proofs.Traversal
import FluentBuilder.Proofs.TypeRef.Brackets
import FluentBuilder.TypeRef.Reader

/-!
How a declared type is read. `Denotes` is the grammar of declared types with what each text stands
for, and `parse_eq_ok_iff` says that a text is read as what it denotes.
-/

namespace FluentBuilder.TypeRef

open Text (Blank trim)

/-- The texts that denote a type: a name, the text of an element with brackets behind it, or a name
with the texts of arguments in angle brackets. -/
inductive Denotes : List Char → TypeRef → Prop
  | leaf {cs : List Char} : ¬ Blank cs → ¬ ['[', ']'] <:+ trim cs → '<' ∉ cs →
      Denotes cs (leaf (String.ofList (trim cs)))
  | array {x b : List Char} {e : TypeRef} : Blank b → Denotes x e →
      Denotes (x ++ '[' :: ']' :: b) (arrayOf e)
  | generic {base b : List Char} {args : List (List Char × TypeRef)} : '<' ∉ base → Blank b →
      args ≠ [] → (∀ a ∈ args, Sealed a.1) → (∀ a ∈ args, Denotes a.1 a.2) →
      Denotes (base ++ '<' :: ([','].intercalate (args.map Prod.fst) ++ '>' :: b))
        (generic (String.ofList (trim base)) (args.map Prod.snd))

theorem balanced_arguments {args : List (List Char × TypeRef)} (h : ∀ a ∈ args, Sealed a.1) :
    Balanced ([','].intercalate (args.map Prod.fst)) := by
  have hcomma : Balanced [','] := balanced_of_notMem (by decide) (by decide)
  exact balanced_intercalate hcomma (List.forall_mem_map.mpr fun a ha => (h a ha).toBalanced)

/-- The text between the outer brackets is cut into its pieces, of which none may be blank. -/
theorem splitArguments_eq_ok_iff {inner whole : List Char} {ps : List (List Char)} :
    (splitArguments inner whole).map Subtype.val = .ok ps ↔
      pieces? inner = some ps ∧ ∀ p ∈ ps, ¬ Blank p := by
  have hblank (qs : List (List Char)) :
      (qs.any fun p => (trim p).isEmpty) = true ↔ ¬ ∀ p ∈ qs, ¬ Blank p := by
    simp [Text.trim_eq_nil_iff]
  unfold splitArguments
  split
  · rename_i h
    simp [h, Except.map]
  · rename_i qs hqs
    constructor
    · intro h
      split_ifs at h with hb
      · cases h
      · obtain rfl := Except.ok.inj h
        exact ⟨hqs, not_not.mp (mt (hblank qs).mpr hb)⟩
    · rintro ⟨hps, hne⟩
      obtain rfl := Option.some.inj (hqs.symm.trans hps)
      rw [if_neg fun hb => (hblank qs).mp hb hne]
      rfl

theorem parse_eq (cs : List Char) :
    parse cs =
      if trim cs = [] then .error .empty
      else if ['[', ']'] <:+ trim cs then
        (parse (trim cs).dropLast.dropLast).map arrayOf
      else if '<' ∈ trim cs then
        if (trim cs).getLast? ≠ some '>' then .error (.malformed (String.ofList (trim cs)))
        else do
          let ps ← (splitArguments (innerOf (trim cs)) (trim cs)).map Subtype.val
          let args ← ps.mapM parse
          return generic (String.ofList (trim (baseOf (trim cs)))) args
      else .ok (leaf (String.ofList (trim cs))) := by
  have hmark : "[]".toList = ['[', ']'] := by simp
  conv_lhs => rw [parse]
  simp only [hmark, List.isSuffixOf_iff_suffix]
  split_ifs with h1 h2 h3 h4
  · rfl
  · rfl
  · rfl
  · split
    · rename_i hs
      rw [hs]
      rfl
    · rename_i ps hps hs
      have hm : (ps.attach.mapM fun x => parse x.val) = ps.mapM parse := by
        rw [List.mapM_subtype fun x hx => rfl, List.unattach_attach]
      rw [hs, hm]
      rfl
  · rfl

/-- Only what is left after trimming decides. -/
theorem parse_congr {cs ds : List Char} (h : trim cs = trim ds) : parse cs = parse ds := by
  rw [parse_eq, parse_eq ds, h]

theorem parse_trim (cs : List Char) : parse (trim cs) = parse cs := parse_congr (Text.trim_trim cs)

theorem parse_blank {cs : List Char} (h : Blank cs) : parse cs = .error .empty := by
  rw [parse_eq, if_pos (Text.trim_of_blank h)]

theorem not_blank_of_parse {cs : List Char} {t : TypeRef} (h : parse cs = .ok t) : ¬ Blank cs := by
  intro hb
  rw [parse_blank hb] at h
  cases h

/-- Brackets at the end make an array of what stands in front of them. -/
theorem parse_array (x : List Char) {b : List Char} (hb : Blank b) :
    parse (x ++ '[' :: ']' :: b) = (parse x).map arrayOf := by
  have ht : trim (x ++ '[' :: ']' :: b) = Text.trimStart x ++ ['[', ']'] := by
    rw [Text.trim_append_cons (by decide), ← List.nil_append (']' :: b),
      Text.trimEnd_append_cons (by decide), Text.trimEnd_of_blank hb]
    rfl
  have hdrop : (Text.trimStart x ++ ['[', ']']).dropLast.dropLast = Text.trimStart x := by
    rw [List.append_cons, List.dropLast_concat, List.dropLast_concat]
  rw [parse_eq, ht, if_neg (by simp), if_pos (List.suffix_append ..), hdrop,
    parse_congr (Text.trim_trimStart x)]

theorem parse_array_eq_ok_iff (x : List Char) {b : List Char} (hb : Blank b) (t : TypeRef) :
    parse (x ++ '[' :: ']' :: b) = .ok t ↔ ∃ e, parse x = .ok e ∧ t = arrayOf e := by
  rw [parse_array x hb]
  cases parse x with
  | error e => simp [Except.map]
  | ok e => simp [Except.map, eq_comm]

theorem parse_leaf {cs : List Char} (hcs : ¬ Blank cs) (hmark : ¬ ['[', ']'] <:+ trim cs)
    (ho : '<' ∉ trim cs) : parse cs = .ok (leaf (String.ofList (trim cs))) := by
  rw [parse_eq, if_neg (mt Text.trim_eq_nil_iff.mp hcs),
    if_neg hmark, if_neg ho]

/-- Brackets that never come to an end are malformed. -/
theorem parse_open {cs : List Char} (hmark : ¬ ['[', ']'] <:+ trim cs) (ho : '<' ∈ trim cs)
    (hc : (trim cs).getLast? ≠ some '>') :
    parse cs = .error (.malformed (String.ofList (trim cs))) := by
  rw [parse_eq, if_neg (List.ne_nil_of_mem ho), if_neg hmark,
    if_pos ho, if_pos hc]

theorem trim_enclosed (base inner : List Char) {b : List Char} (hb : Blank b) :
    trim (base ++ '<' :: (inner ++ '>' :: b)) =
      Text.trimStart base ++ '<' :: (inner ++ ['>']) := by
  rw [Text.trim_append_cons (by decide), Text.trimEnd_append_cons (by decide),
    Text.trimEnd_of_blank hb]

theorem mapM_parse_eq_ok_iff (args : List (List Char × TypeRef)) :
    (args.map Prod.fst).mapM parse = .ok (args.map Prod.snd) ↔ ∀ a ∈ args, parse a.1 = .ok a.2 := by
  rw [mapM_eq_ok_iff, List.forall₂_map_left_iff, List.forall₂_map_right_iff, List.forall₂_same]

/-- A name with arguments is accepted exactly if the text between the brackets joins sealed texts
that are all accepted, and these are its arguments. -/
theorem parse_enclosed_eq_ok_iff {base : List Char} (hbase : '<' ∉ base) (inner : List Char)
    {b : List Char} (hb : Blank b) (t : TypeRef) :
    parse (base ++ '<' :: (inner ++ '>' :: b)) = .ok t ↔
      ∃ args : List (List Char × TypeRef), args ≠ [] ∧
        [','].intercalate (args.map Prod.fst) = inner ∧ (∀ a ∈ args, Sealed a.1) ∧
        (∀ a ∈ args, parse a.1 = .ok a.2) ∧
        t = generic (String.ofList (trim base)) (args.map Prod.snd) := by
  let text := Text.trimStart base ++ '<' :: (inner ++ ['>'])
  have hstart : '<' ∉ Text.trimStart base := fun h => hbase ((List.dropWhile_subset _) h)
  have hmark : ¬ ['[', ']'] <:+ text := by
    rintro ⟨x, hx⟩
    have hlast := congrArg List.getLast? hx
    simp [text, List.getLast?_cons] at hlast
  have hbaseOf : baseOf text = Text.trimStart base := by
    rw [baseOf, List.takeWhile_append_of_pos (by grind)]
    simp
  have hinnerOf : innerOf text = inner := by
    rw [innerOf, List.dropWhile_append_of_pos (by grind)]
    simp
  have hname : trim (baseOf text) = trim base := by rw [hbaseOf, Text.trim_trimStart]
  have hlast : text.getLast? = some '>' := by simp [text, List.getLast?_cons]
  rw [parse_eq, trim_enclosed base inner hb, if_neg (by simp), if_neg hmark, if_pos (by simp),
    if_neg (not_not.mpr hlast), hinnerOf, hname]
  constructor
  · intro h
    obtain ⟨ps, hps, h⟩ := (bind_eq_ok_iff ..).mp h
    obtain ⟨ts, hts, ht⟩ := (bind_eq_ok_iff ..).mp h
    obtain ⟨hne, hjoin, hsealed⟩ := pieces?_eq_some_iff.mp (splitArguments_eq_ok_iff.mp hps).1
    have hlen := ((mapM_eq_ok_iff ..).mp hts).length_eq
    have hfst : (ps.zip ts).map Prod.fst = ps := List.map_fst_zip (by omega)
    have hsnd : (ps.zip ts).map Prod.snd = ts := List.map_snd_zip (by omega)
    refine ⟨ps.zip ts, ?_, by rw [hfst, hjoin], fun a ha => hsealed a.1 ?_, ?_, ?_⟩
    · rintro hnil
      rw [hnil] at hfst
      exact hne hfst.symm
    · exact (List.of_mem_zip ha).1
    · refine (mapM_parse_eq_ok_iff _).mp ?_
      rw [hfst, hsnd]
      exact hts
    · rw [hsnd, ← Except.ok.inj ht]
  · rintro ⟨args, hne, hjoin, hsealed, hargs, rfl⟩
    have hpieces : pieces? inner = some (args.map Prod.fst) := by
      rw [pieces?_eq_some_iff]
      exact ⟨by simpa using hne, hjoin, List.forall_mem_map.mpr hsealed⟩
    have hblank : ∀ p ∈ args.map Prod.fst, ¬ Blank p :=
      List.forall_mem_map.mpr fun a ha => not_blank_of_parse (hargs a ha)
    refine (bind_eq_ok_iff ..).mpr ⟨_, splitArguments_eq_ok_iff.mpr ⟨hpieces, hblank⟩, ?_⟩
    exact (bind_eq_ok_iff ..).mpr ⟨_, (mapM_parse_eq_ok_iff args).mpr hargs, rfl⟩

/-- What a text can be read as, by its shape. -/
theorem shape_cases (cs : List Char) :
    Blank cs ∨ (∃ x b, Blank b ∧ cs = x ++ '[' :: ']' :: b) ∨
      (∃ base inner b, '<' ∉ base ∧ Blank b ∧ cs = base ++ '<' :: (inner ++ '>' :: b)) ∨
      ¬ ['[', ']'] <:+ trim cs ∧ ('<' ∉ trim cs ∨ (trim cs).getLast? ≠ some '>') := by
  obtain ⟨front, back, hf, hb, hcs⟩ := Text.exists_blank_trim cs
  by_cases hmark : ['[', ']'] <:+ trim cs
  · obtain ⟨x, hx⟩ := hmark
    exact .inr (.inl ⟨front ++ x, back, hb, by rw [hcs, ← hx]; simp⟩)
  by_cases ho : '<' ∈ trim cs
  · by_cases hc : (trim cs).getLast? = some '>'
    · obtain ⟨base, rest, hsplit, hbase⟩ := List.eq_append_cons_of_mem ho
      obtain ⟨inner, rfl⟩ : ∃ inner, rest = inner ++ ['>'] := by
        rw [hsplit] at hc
        rcases List.eq_nil_or_concat rest with rfl | ⟨inner, d, rfl⟩
        · simp at hc
        · exact ⟨inner, by simpa [List.getLast?_cons] using hc⟩
      refine .inr (.inr (.inl ⟨front ++ base, inner, back, ?_, hb, ?_⟩))
      · rw [List.mem_append, not_or]
        exact ⟨(plain_of_blank hf).noOpen, hbase⟩
      · rw [hcs, hsplit]
        simp
    · exact .inr (.inr (.inr ⟨hmark, .inr hc⟩))
  · exact .inr (.inr (.inr ⟨hmark, .inl ho⟩))

theorem Denotes.parse_eq {cs : List Char} {t : TypeRef} (h : Denotes cs t) :
    parse cs = .ok t := by
  induction h with
  | leaf hb hm ho => exact parse_leaf hb hm (mt (Text.mem_trim_iff (by decide)).mp ho)
  | array hb _ ih => exact (parse_array_eq_ok_iff _ hb _).mpr ⟨_, ih, rfl⟩
  | generic ho hb hne hs _ ih =>
    exact (parse_enclosed_eq_ok_iff ho _ hb _).mpr ⟨_, hne, rfl, hs, ih, rfl⟩

theorem denotes_of_parse {cs : List Char} {t : TypeRef} (h : parse cs = .ok t) :
    Denotes cs t := by
  induction hn : cs.length using Nat.strong_induction_on generalizing cs t with
  | _ n ih =>
    rcases shape_cases cs with hb | ⟨x, b, hb, rfl⟩ | ⟨base, inner, b, ho, hb, rfl⟩ | ⟨hm, hs⟩
    · exact absurd hb (not_blank_of_parse h)
    · obtain ⟨e, he, rfl⟩ := (parse_array_eq_ok_iff x hb t).mp h
      refine .array hb (ih x.length ?_ he rfl)
      rw [← hn, List.length_append, List.length_cons]
      omega
    · obtain ⟨args, hne, rfl, hs, hargs, rfl⟩ := (parse_enclosed_eq_ok_iff ho inner hb t).mp h
      have hsome : args.map Prod.fst ≠ [] := by simpa using hne
      have hpieces := pieces?_intercalate hsome (List.forall_mem_map.mpr hs)
      refine .generic ho hb hne hs fun a ha => ih a.1.length ?_ (hargs a ha) rfl
      have hle := length_le_of_mem_piecesAt? hpieces a.1 (List.mem_map_of_mem ha)
      rw [← hn, List.length_append, List.length_cons, List.length_append]
      omega
    · have hb := not_blank_of_parse h
      by_cases ho : '<' ∈ trim cs
      · rw [parse_open hm ho (hs.resolve_left (not_not.mpr ho))] at h
        cases h
      · rw [parse_leaf hb hm ho] at h
        obtain rfl := Except.ok.inj h
        exact .leaf hb hm (mt (Text.mem_trim_iff (by decide)).mpr ho)

theorem parse_eq_ok_iff {cs : List Char} {t : TypeRef} : parse cs = .ok t ↔ Denotes cs t :=
  ⟨denotes_of_parse, Denotes.parse_eq⟩

end FluentBuilder.TypeRef
