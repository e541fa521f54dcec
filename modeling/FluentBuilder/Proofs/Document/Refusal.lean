import FluentBuilder.Proofs.Document.Parts
import FluentBuilder.Proofs.Traversal

/-! How reading a document fails. A document that describes no classes is refused, and a refusal
tells what is wrong. There is one other way: a number that is too long to be written, where a
refusal would show it or where it stands for a text. -/

namespace FluentBuilder

variable {α β : Type}

/-- The reading fails by refusing the document, or else for a number too long to be written, and the
latter exactly under the condition. -/
structure FailsBy (x : Except Failure α) (unwritten : Prop) : Prop where
  error : ∀ e, x = .error e →
    (∃ d, e = .generation (.badDocument d)) ∨ e = .fault (.longNumber none)
  fault_iff : x = .error (.fault (.longNumber none)) ↔ unwritten

namespace FailsBy

variable {x : Except Failure α} {P Q : Prop}

theorem congr (h : FailsBy x P) (hpq : P ↔ Q) : FailsBy x Q := ⟨h.error, h.fault_iff.trans hpq⟩

theorem ok (a : α) : FailsBy (.ok a) False :=
  ⟨fun _ h => (nomatch h), ⟨fun h => (nomatch h), False.elim⟩⟩

theorem refuse (d : DocumentError) :
    FailsBy (refuseDocument d : Except Failure α) (∃ v ∈ d.shown, v.hasLongNumber = true) := by
  have hshown : (GenerationError.badDocument d).shown = d.shown := rfl
  unfold refuseDocument GenerationError.failure
  rw [hshown, ← List.any_eq_true]
  by_cases h : d.shown.any (·.hasLongNumber) = true
  · rw [if_pos h]
    exact ⟨fun e he => .inr (Except.error.inj he).symm, ⟨fun _ => h, fun _ => rfl⟩⟩
  · rw [if_neg h]
    exact ⟨fun e he => .inl ⟨d, (Except.error.inj he).symm⟩,
      ⟨fun he => (nomatch he), fun ht => absurd ht h⟩⟩

theorem refuse_of_shown_nil {d : DocumentError} (hd : d.shown = []) :
    FailsBy (refuseDocument d : Except Failure α) False :=
  (refuse d).congr (by simp [hd])

theorem refuse_of_shown {d : DocumentError} {v : Value} (hd : d.shown = [v]) :
    FailsBy (refuseDocument d : Except Failure α) (v.hasLongNumber = true) :=
  (refuse d).congr (by simp [hd])

theorem plain (v : Value) : FailsBy (plainText v) (v.hasLongNumber = true) := by
  unfold plainText
  by_cases h : v.hasLongNumber = true
  · rw [if_pos h]
    exact ⟨fun e he => .inr (Except.error.inj he).symm, ⟨fun _ => h, fun _ => rfl⟩⟩
  · rw [if_neg h]
    exact (ok _).congr ⟨False.elim, h⟩

theorem bind {f : α → Except Failure β} {R : α → Prop} (hx : FailsBy x P)
    (hf : ∀ a, x = .ok a → FailsBy (f a) (R a)) :
    FailsBy (x >>= f) (P ∨ ∃ a, x = .ok a ∧ R a) := by
  constructor
  · intro e he
    obtain he | ⟨a, ha, he⟩ := (bind_eq_error_iff ..).mp he
    · exact hx.error e he
    · exact (hf a ha).error e he
  · rw [bind_eq_error_iff, hx.fault_iff]
    refine or_congr_right (exists_congr fun a => and_congr_right fun ha => ?_)
    exact (hf a ha).fault_iff

theorem after {f : α → Except Failure β} {R : α → Prop} (hx : FailsBy x False)
    (hf : ∀ a, x = .ok a → FailsBy (f a) (R a)) :
    FailsBy (x >>= f) (∃ a, x = .ok a ∧ R a) :=
  (hx.bind hf).congr (iff_of_eq (false_or _))

theorem map (hx : FailsBy x P) (g : α → β) : FailsBy (x >>= fun a => .ok (g a)) P :=
  (hx.bind fun a _ => ok (g a)).congr (by simp)

theorem listed {d : DocumentError} (hd : d.shown = []) (v : Value) :
    FailsBy (match v with
      | .list items => .ok items
      | _ => refuseDocument d) False := by
  split
  · exact ok _
  · exact refuse_of_shown_nil hd

theorem mapM {f : α → Except Failure β} {R : α → Prop} (hf : ∀ a, FailsBy (f a) (R a))
    (xs : List α) :
    FailsBy (xs.mapM f) (∃ before a after, xs = before ++ a :: after ∧
      (∀ b ∈ before, ∃ y, f b = .ok y) ∧ R a) := by
  constructor
  · intro e he
    obtain ⟨_, a, _, -, -, ha⟩ := (mapM_eq_error_iff ..).mp he
    exact (hf a).error e ha
  · simp only [mapM_eq_error_iff, (hf _).fault_iff]

theorem mapM_plain (xs : List Value) :
    FailsBy (xs.mapM plainText) (∃ v ∈ xs, v.hasLongNumber = true) := by
  refine (mapM plain xs).congr ⟨?_, ?_⟩
  · intro hfirst
    obtain ⟨before, v, after, rfl, -, hv⟩ := hfirst
    exact ⟨v, by simp, hv⟩
  -- All before the first item that is too long can be written.
  · intro hlong
    obtain ⟨v, hfind⟩ := Option.isSome_iff_exists.mp (List.find?_isSome.mpr hlong)
    obtain ⟨hv, before, after, hsplit, hbefore⟩ := List.find?_eq_some_iff_append.mp hfind
    refine ⟨before, v, after, hsplit, fun w hw => ⟨w.plain, ?_⟩, hv⟩
    exact (plainText_eq_ok_iff ..).mpr ⟨by simpa using hbefore w hw, rfl⟩

end FailsBy

/-- The entry under the key is a truth value, if there is one. -/
def IsFlag (entries : List (Value × Value)) (key : String) : Prop :=
  ∀ v, Value.lookup? key entries = some v → ∃ b, v = .bool b

/-- The entry under the key is no truth value, and the refusal of it cannot be written. -/
def IsUnwrittenFlag (entries : List (Value × Value)) (key : String) : Prop :=
  ∃ v, Value.lookup? key entries = some v ∧ (∀ b, v ≠ .bool b) ∧ v.hasLongNumber = true

def regexOf (options : Value) : Value :=
  match options.opened with
  | .dict entries => entryOf "regex" entries
  | _ => options

/-- Options under a tag of this word are refused, and the refusal cannot be written. -/
inductive OptionsUnwritten (word : String) (options : Value) : Prop
  | noOptions : word = "range" ∨ word = "size" ∨ word = "sizebound" →
      (∀ entries, options.opened ≠ .dict entries) → options.hasLongNumber = true →
      OptionsUnwritten word options
  | minFlag {entries : List (Value × Value)} : word = "range" → options.opened = .dict entries →
      IsUnwrittenFlag entries "min_exclusive" → OptionsUnwritten word options
  | maxFlag {entries : List (Value × Value)} : word = "range" → options.opened = .dict entries →
      IsFlag entries "min_exclusive" → IsUnwrittenFlag entries "max_exclusive" →
      OptionsUnwritten word options
  | regex : word = "pattern" → (∀ s, regexOf options ≠ .text s) →
      (regexOf options).hasLongNumber = true → OptionsUnwritten word options

namespace Constraint

theorem exists_flagOf_iff (tag : Value) (entries : List (Value × Value)) (key : String) :
    (∃ b, flagOf tag entries key = .ok b) ↔ IsFlag entries key := by
  unfold flagOf IsFlag
  cases hv : Value.lookup? key entries with
  | none => simp
  | some v => cases v <;> simp [refuseDocument]

section

variable {tag : Value} (htag : tag.hasLongNumber = false)

include htag

theorem failsBy_optionsOf (options : Value) :
    FailsBy (optionsOf tag options)
      ((∀ entries, options.opened ≠ .dict entries) ∧ options.hasLongNumber = true) := by
  unfold optionsOf
  split
  · rename_i entries h
    exact (FailsBy.ok _).congr ⟨False.elim, fun hn => hn.1 entries h⟩
  · rename_i h
    apply (FailsBy.refuse _).congr
    simpa [DocumentError.shown, htag] using fun _ => h

theorem failsBy_flagOf (entries : List (Value × Value)) (key : String) :
    FailsBy (flagOf tag entries key) (IsUnwrittenFlag entries key) := by
  unfold flagOf IsUnwrittenFlag
  cases hv : Value.lookup? key entries with
  | none => exact (FailsBy.ok _).congr (by simp)
  | some v =>
    cases v with
    | bool b => exact (FailsBy.ok _).congr (by simp)
    | _ => exact (FailsBy.refuse _).congr (by simp [DocumentError.shown, htag])

theorem failsBy_rangeOf (options : Value) :
    FailsBy (rangeOf tag options) (OptionsUnwritten "range" options) := by
  have h := (failsBy_optionsOf htag options).bind fun entries _ =>
    (failsBy_flagOf htag entries "min_exclusive").bind fun minExclusive _ =>
      (failsBy_flagOf htag entries "max_exclusive").bind fun maxExclusive _ =>
        FailsBy.ok (Constraint.range { min := entryOf "min" entries, max := entryOf "max" entries,
                                       minExclusive, maxExclusive })
  refine h.congr ?_
  simp only [optionsOf_eq_ok_iff, and_false, exists_false, or_false]
  constructor
  · intro hstage
    obtain ⟨hn, hl⟩ | ⟨entries, ho, hmin | ⟨b, hb, hmax⟩⟩ := hstage
    · exact .noOptions (.inl rfl) hn hl
    · exact .minFlag rfl ho hmin
    · exact .maxFlag rfl ho ((exists_flagOf_iff ..).mp ⟨b, hb⟩) hmax
  · intro hu
    cases hu with
    | noOptions _ hn hl => exact .inl ⟨hn, hl⟩
    | minFlag _ ho hmin => exact .inr ⟨_, ho, .inl hmin⟩
    | maxFlag _ ho hmin hmax =>
      obtain ⟨b, hb⟩ := (exists_flagOf_iff tag ..).mpr hmin
      exact .inr ⟨_, ho, .inr ⟨b, hb, hmax⟩⟩
    | regex hword => simp at hword

theorem failsBy_sizeOf {word : String} (hword : word = "size" ∨ word = "sizebound")
    (options : Value) : FailsBy (sizeOf tag options) (OptionsUnwritten word options) := by
  have h := (failsBy_optionsOf htag options).bind fun entries _ =>
    FailsBy.ok (Constraint.size ((Value.lookup? "min" entries).getD (.int 0))
      (entryOf "max" entries))
  refine h.congr ?_
  simp only [and_false, exists_false, or_false]
  constructor
  · intro hstage
    obtain ⟨hn, hl⟩ := hstage
    exact .noOptions (.inr hword) hn hl
  · intro hu
    cases hu with
    | noOptions _ hn hl => exact ⟨hn, hl⟩
    | minFlag hrange => simp [hrange] at hword
    | maxFlag hrange => simp [hrange] at hword
    | regex hpattern => simp [hpattern] at hword

end

theorem patternOf_of_text {options : Value} {s : String} (h : regexOf options = .text s) :
    patternOf options = .ok (.pattern (.text s)) := by
  unfold regexOf at h
  unfold patternOf
  cases ho : options.opened <;> simp only [ho] at h ⊢ <;> rw [h]

theorem patternOf_of_ne_text {options : Value} (h : ∀ s, regexOf options ≠ .text s) :
    patternOf options = refuseDocument (.noRegex (regexOf options)) := by
  unfold regexOf at h ⊢
  unfold patternOf
  cases ho : options.opened <;> simp only [ho] at h ⊢ <;> split <;> simp_all

theorem failsBy_patternOf (options : Value) :
    FailsBy (patternOf options) (OptionsUnwritten "pattern" options) := by
  have hfails : FailsBy (patternOf options)
      ((∀ s, regexOf options ≠ .text s) ∧ (regexOf options).hasLongNumber = true) := by
    by_cases htext : ∃ s, regexOf options = .text s
    · obtain ⟨s, hs⟩ := htext
      rw [patternOf_of_text hs]
      exact (FailsBy.ok _).congr (by simp [hs])
    · have hn := not_exists.mp htext
      rw [patternOf_of_ne_text hn]
      exact (FailsBy.refuse_of_shown rfl).congr (by simp [hn])
  refine hfails.congr ⟨fun ⟨hn, hl⟩ => .regex rfl hn hl, fun hu => ?_⟩
  cases hu with
  | regex _ hn hl => exact ⟨hn, hl⟩
  | noOptions hword => simp at hword
  | minFlag hword => simp at hword
  | maxFlag hword => simp at hword

theorem not_optionsUnwritten {word : String} (hrange : word ≠ "range") (hsize : word ≠ "size")
    (hbound : word ≠ "sizebound") (hpattern : word ≠ "pattern") (options : Value) :
    ¬ OptionsUnwritten word options := by
  intro hu
  cases hu <;> simp_all

theorem failsBy_ofTag (tag options : Value) :
    FailsBy (ofTag tag options) (tag.hasLongNumber = true ∨
      tag.hasLongNumber = false ∧ OptionsUnwritten (tagWord tag.plain) options) := by
  unfold ofTag
  refine FailsBy.congr (FailsBy.bind (R := fun text => OptionsUnwritten (tagWord text) options)
    (FailsBy.plain tag) fun text htext => ?_) ?_
  · have htag := ((plainText_eq_ok_iff ..).mp htext).1
    generalize tagWord text = word
    -- The first four words take no options, and the last case is any other word.
    split
    case h_5 => exact failsBy_rangeOf htag options
    case h_6 => exact failsBy_sizeOf htag (.inl rfl) options
    case h_7 => exact failsBy_sizeOf htag (.inr rfl) options
    case h_8 => exact failsBy_patternOf options
    case h_9 hrange hsize hbound hpattern =>
      apply (FailsBy.refuse _).congr
      simpa [DocumentError.shown, htag] using
        not_optionsUnwritten hrange hsize hbound hpattern options
    all_goals exact (FailsBy.ok _).congr ⟨False.elim,
      not_optionsUnwritten (by decide) (by decide) (by decide) (by decide) options⟩
  · simp [plainText_eq_ok_iff, and_assoc]

/-- The constraint is refused, and the refusal cannot be written, or its tag cannot be taken as a
text. -/
inductive Unwritten (entry : Value) : Prop
  | shape : (∀ tag, entry.opened ≠ .text tag) →
      (∀ tag options, entry.opened ≠ .dict [(tag, options)]) → entry.hasLongNumber = true →
      Unwritten entry
  | tag {tag options : Value} : entry.opened = .dict [(tag, options)] →
      tag.hasLongNumber = true → Unwritten entry
  | options {tag options : Value} : entry.opened = .dict [(tag, options)] →
      tag.hasLongNumber = false → OptionsUnwritten (tagWord tag.plain) options → Unwritten entry

theorem not_unwritten_of_text {entry : Value} {tag : String} (h : entry.opened = .text tag) :
    ¬ Unwritten entry := by
  intro hu
  cases hu with
  | shape htext => exact htext tag h
  | tag hdict => simp [h] at hdict
  | options hdict => simp [h] at hdict

theorem not_optionsUnwritten_null (word : String) : ¬ OptionsUnwritten word .null := by
  intro hu
  cases hu with
  | noOptions _ _ hl => cases hl
  | minFlag _ ho => cases ho
  | maxFlag _ ho => cases ho
  | regex _ _ hl => cases hl

theorem failsBy_ofDocument (entry : Value) : FailsBy (ofDocument entry) (Unwritten entry) := by
  unfold ofDocument
  split
  · rename_i tag hopened
    apply (failsBy_ofTag (.text tag) .null).congr
    have hlong : (Value.text tag).hasLongNumber = false := rfl
    simp [hlong, not_optionsUnwritten_null, not_unwritten_of_text hopened]
  · rename_i tag options hopened
    apply (failsBy_ofTag tag options).congr
    constructor
    · intro hstage
      obtain hl | ⟨hl, ho⟩ := hstage
      · exact .tag hopened hl
      · exact .options hopened hl ho
    · intro hu
      cases hu with
      | shape _ hdict => exact absurd hopened (hdict tag options)
      | tag hdict hl =>
        obtain ⟨rfl, -⟩ : _ ∧ _ := by simpa [hopened] using hdict
        exact .inl hl
      | options hdict hl ho =>
        obtain ⟨rfl, rfl⟩ : _ ∧ _ := by simpa [hopened] using hdict
        exact .inr ⟨hl, ho⟩
  · rename_i htext hdict
    apply (FailsBy.refuse_of_shown rfl).congr
    constructor
    · exact .shape htext hdict
    · intro hu
      cases hu with
      | shape _ _ hl => exact hl
      | tag ho => exact absurd ho (hdict _ _)
      | options ho => exact absurd ho (hdict _ _)

end Constraint

namespace FieldDescriptor

theorem failsBy_type (s : String) :
    FailsBy ((TypeRef.ofString s).mapError fun e => .generation (.badDocument (.type e)))
      False := by
  cases TypeRef.ofString s with
  | error e =>
    refine ⟨fun x hx => .inl ⟨.type e, ?_⟩, fun hx => (nomatch hx), False.elim⟩
    exact (Except.error.inj hx).symm
  | ok t => exact FailsBy.ok t

/-- The field is refused, and the refusal cannot be written: it is no mapping, it has no name, or
that happens at the first of its constraints that cannot be read. -/
inductive Unwritten (entry : Value) : Prop
  | shape : (∀ entries, entry.opened ≠ .dict entries) → entry.hasLongNumber = true →
      Unwritten entry
  | unnamed {entries : List (Value × Value)} : entry.opened = .dict entries →
      (∀ s, entryOf "name" entries ≠ .text s) → (Value.dict entries).hasLongNumber = true →
      Unwritten entry
  | constraint {entries : List (Value × Value)} {name type : String} {t : TypeRef}
      {before after : List Value} {k : Value} : entry.opened = .dict entries →
      entryOf "name" entries = .text name → entryOf "type" entries = .text type →
      TypeRef.ofString type = .ok t → Lists entries "constraints" (before ++ k :: after) →
      (∀ j ∈ before, ∃ c, Constraint.ofDocument j = .ok c) → Constraint.Unwritten k →
      Unwritten entry

theorem failsBy_ofDocument (entry : Value) : FailsBy (ofDocument entry) (Unwritten entry) := by
  unfold ofDocument
  split
  · rename_i entries hopened
    split
    · rename_i name type hname htype
      have hlist : FailsBy (constraintEntries name entries) False := FailsBy.listed rfl _
      refine (hlist.after fun items _ => (failsBy_type type).after fun t _ =>
        (FailsBy.mapM Constraint.failsBy_ofDocument items).map _).congr ?_
      simp only [constraintEntries_eq_ok_iff, mapError_eq_ok_iff]
      constructor
      · intro hstage
        obtain ⟨_, hitems, t, ht, before, k, after, rfl, hbefore, hk⟩ := hstage
        exact .constraint hopened hname htype ht hitems hbefore hk
      · intro hu
        cases hu with
        | shape hdict => exact absurd hopened (hdict entries)
        | unnamed ho hn =>
          obtain rfl := Value.dict.inj (hopened.symm.trans ho)
          exact absurd hname (hn name)
        | constraint ho _ hy ht hitems hbefore hk =>
          obtain rfl := Value.dict.inj (hopened.symm.trans ho)
          obtain rfl := Value.text.inj (htype.symm.trans hy)
          exact ⟨_, hitems, _, ht, _, _, _, rfl, hbefore, hk⟩
    · rename_i name hname htype
      apply (FailsBy.refuse_of_shown_nil rfl).congr
      refine ⟨False.elim, fun hu => ?_⟩
      cases hu with
      | shape hdict => exact hdict entries hopened
      | unnamed ho hn =>
        obtain rfl := Value.dict.inj (hopened.symm.trans ho)
        exact hn name hname
      | constraint ho _ hy =>
        obtain rfl := Value.dict.inj (hopened.symm.trans ho)
        exact htype _ hy
    · rename_i hname _
      apply (FailsBy.refuse_of_shown rfl).congr
      constructor
      · exact .unnamed hopened hname
      · intro hu
        cases hu with
        | shape hdict => exact absurd hopened (hdict entries)
        | unnamed ho _ hl => rwa [← hopened, ho]
        | constraint ho hn =>
          obtain rfl := Value.dict.inj (hopened.symm.trans ho)
          exact absurd hn (hname _)
  · rename_i hdict
    apply (FailsBy.refuse_of_shown rfl).congr
    constructor
    · exact .shape hdict
    · intro hu
      cases hu with
      | shape _ hl => exact hl
      | unnamed ho => exact absurd ho (hdict _)
      | constraint ho => exact absurd ho (hdict _)

end FieldDescriptor

namespace ClassDescriptor

/-- The entries describe a class of these fields, type parameters and members, as far as the shape
of the description goes. -/
structure Shaped (entries : List (Value × Value)) (fields parameters members : List Value) :
    Prop where
  name : ∃ s, entryOf "name" entries = .text s
  fields : Lists entries "fields" fields
  parameters : Lists entries "type_parameters" parameters
  members : Lists entries "members" members

/-- The class is refused, and the refusal cannot be written: it is no mapping, or that happens at
the first of its fields that cannot be read. Or a type parameter or a member cannot be taken as a
text. -/
inductive Unwritten (entry : Value) : Prop
  | shape : (∀ entries, entry.opened ≠ .dict entries) → entry.hasLongNumber = true →
      Unwritten entry
  | field {entries : List (Value × Value)} {before after parameters members : List Value}
      {f : Value} : entry.opened = .dict entries →
      Shaped entries (before ++ f :: after) parameters members →
      (∀ g ∈ before, ∃ d, FieldDescriptor.ofDocument g = .ok d) → FieldDescriptor.Unwritten f →
      Unwritten entry
  | name {entries : List (Value × Value)} {fields parameters members : List Value} {v : Value} :
      entry.opened = .dict entries → Shaped entries fields parameters members →
      (∀ f ∈ fields, ∃ d, FieldDescriptor.ofDocument f = .ok d) → v ∈ parameters ++ members →
      v.hasLongNumber = true → Unwritten entry

theorem failsBy_names (parameters members : List Value)
    (g : List String → List String → ClassDescriptor) :
    FailsBy (parameters.mapM plainText >>= fun typeParameters =>
        members.mapM plainText >>= fun memberNames => .ok (g typeParameters memberNames))
      (∃ v ∈ parameters ++ members, v.hasLongNumber = true) := by
  refine ((FailsBy.mapM_plain parameters).bind fun _ _ =>
    (FailsBy.mapM_plain members).map _).congr ?_
  -- Members are reached only if all parameters can be written. If not, there is a long number too.
  constructor
  · intro hstage
    obtain ⟨v, hv, hl⟩ | ⟨_, _, v, hv, hl⟩ := hstage
    · exact ⟨v, List.mem_append_left _ hv, hl⟩
    · exact ⟨v, List.mem_append_right _ hv, hl⟩
  · intro hlong
    obtain ⟨v, hv, hl⟩ := hlong
    by_cases hp : ∃ w ∈ parameters, w.hasLongNumber = true
    · exact .inl hp
    · have hwritten : ∀ w ∈ parameters, ∃ s, plainText w = .ok s := by
        intro w hw
        have hw : w.hasLongNumber = false := by simpa using fun h => hp ⟨w, hw, h⟩
        exact ⟨w.plain, (plainText_eq_ok_iff ..).mpr ⟨hw, rfl⟩⟩
      obtain ⟨texts, htexts⟩ := (exists_mapM_eq_ok_iff ..).mpr hwritten
      obtain hv | hv := List.mem_append.mp hv
      · exact absurd ⟨v, hv, hl⟩ hp
      · exact .inr ⟨texts, htexts, v, hv, hl⟩

theorem failsBy_ofDocument (entry : Value) : FailsBy (ofDocument entry) (Unwritten entry) := by
  unfold ofDocument
  split
  · rename_i entries hopened
    split
    · rename_i name hname
      have hlist (key : String) : FailsBy (entriesOf name key entries) False :=
        FailsBy.listed rfl _
      refine ((hlist "fields").after fun fields _ => (hlist "type_parameters").after
        fun parameters _ => (hlist "members").after fun members _ =>
          (FailsBy.mapM FieldDescriptor.failsBy_ofDocument fields).bind fun _ _ =>
            failsBy_names parameters members _).congr ?_
      simp only [entriesOf_eq_ok_iff]
      constructor
      · intro hstage
        obtain ⟨fields, hf, parameters, hp, members, hm, hread⟩ := hstage
        have hshaped : Shaped entries fields parameters members := ⟨⟨name, hname⟩, hf, hp, hm⟩
        obtain ⟨before, f, after, rfl, hbefore, hu⟩ | ⟨ds, hds, v, hv, hl⟩ := hread
        · exact .field hopened hshaped hbefore hu
        · exact .name hopened hshaped ((exists_mapM_eq_ok_iff ..).mp ⟨ds, hds⟩) hv hl
      · intro hu
        cases hu with
        | shape hdict => exact absurd hopened (hdict entries)
        | field ho hs hbefore hu =>
          obtain rfl := Value.dict.inj (hopened.symm.trans ho)
          exact ⟨_, hs.fields, _, hs.parameters, _, hs.members,
            .inl ⟨_, _, _, rfl, hbefore, hu⟩⟩
        | name ho hs hfields hv hl =>
          obtain rfl := Value.dict.inj (hopened.symm.trans ho)
          obtain ⟨ds, hds⟩ := (exists_mapM_eq_ok_iff ..).mpr hfields
          exact ⟨_, hs.fields, _, hs.parameters, _, hs.members, .inr ⟨ds, hds, _, hv, hl⟩⟩
    · rename_i hname
      apply (FailsBy.refuse_of_shown_nil rfl).congr
      refine ⟨False.elim, fun hu => ?_⟩
      cases hu with
      | shape hdict => exact hdict entries hopened
      | field ho hs =>
        obtain rfl := Value.dict.inj (hopened.symm.trans ho)
        obtain ⟨s, hs⟩ := hs.name
        exact hname s hs
      | name ho hs =>
        obtain rfl := Value.dict.inj (hopened.symm.trans ho)
        obtain ⟨s, hs⟩ := hs.name
        exact hname s hs
  · rename_i hdict
    apply (FailsBy.refuse_of_shown rfl).congr
    constructor
    · exact .shape hdict
    · intro hu
      cases hu with
      | shape _ hl => exact hl
      | field ho => exact absurd ho (hdict _)
      | name ho => exact absurd ho (hdict _)

/-- What describes the classes of a document: its entry under `classes`, or the document itself. -/
def bodyOf (document : Value) : Value :=
  match document.opened with
  | .dict entries => (Value.lookup? "classes" entries).getD (.dict entries)
  | _ => document

/-- The descriptions of classes in their order: a mapping is one, and a list has any number. -/
inductive Describes (body : Value) : List Value → Prop
  | one {entries : List (Value × Value)} : body.opened = .dict entries →
      Describes body [.dict entries]
  | several {items : List Value} : body.opened = .list items → Describes body items

/-- Reading a document ends at the first description that is refused in words that cannot be
written. -/
def DocumentUnwritten (document : Value) : Prop :=
  ∃ before c after, Describes (bodyOf document) (before ++ c :: after) ∧
    (∀ b ∈ before, ∃ d, ofDocument b = .ok d) ∧ Unwritten c

theorem listOfDocument_eq_listOf (document : Value) :
    listOfDocument document = listOf (bodyOf document) := by
  unfold listOfDocument bodyOf
  cases document.opened <;> rfl

theorem listOf_cases (body : Value) :
    (∃ items, (∀ others, Describes body others ↔ others = items) ∧
        listOf body = items.mapM ofDocument) ∨
      (∀ items, ¬ Describes body items) ∧ listOf body = refuseDocument .noClasses := by
  unfold listOf
  cases hbody : body.opened with
  | dict entries =>
    left
    refine ⟨[.dict entries], fun others => ⟨?_, ?_⟩, ?_⟩
    · intro h
      cases h with
      | one ho => rw [Value.dict.inj (hbody.symm.trans ho)]
      | several ho => cases hbody.symm.trans ho
    · rintro rfl
      exact .one hbody
    · cases hread : ofDocument (.dict entries) with
      | error e => simp [hread, Except.map, bind, Except.bind]
      | ok d => simp [hread, Except.map, bind, Except.bind, pure, Except.pure]
  | list items =>
    left
    refine ⟨items, fun others => ⟨?_, ?_⟩, rfl⟩
    · intro h
      cases h with
      | one ho => cases hbody.symm.trans ho
      | several ho => exact (Value.list.inj (hbody.symm.trans ho)).symm
    · rintro rfl
      exact .several hbody
  | _ =>
    right
    refine ⟨fun items h => ?_, rfl⟩
    cases h with
    | one ho => cases hbody.symm.trans ho
    | several ho => cases hbody.symm.trans ho

theorem listOfDocument_eq_ok_iff (document : Value) (ds : List ClassDescriptor) :
    listOfDocument document = .ok ds ↔ ∃ items, Describes (bodyOf document) items ∧
      List.Forall₂ (fun entry d => ofDocument entry = .ok d) items ds := by
  rw [listOfDocument_eq_listOf]
  obtain ⟨items, hitems, hread⟩ | ⟨hnone, hread⟩ := listOf_cases (bodyOf document)
  · simp [hread, hitems, mapM_eq_ok_iff]
  · simp [hread, hnone, refuseDocument]

theorem failsBy_listOfDocument (document : Value) :
    FailsBy (listOfDocument document) (DocumentUnwritten document) := by
  unfold DocumentUnwritten
  rw [listOfDocument_eq_listOf]
  obtain ⟨items, hitems, hread⟩ | ⟨hnone, hread⟩ := listOf_cases (bodyOf document)
  · rw [hread]
    apply (FailsBy.mapM failsBy_ofDocument items).congr
    simp only [hitems, eq_comm]
  · rw [hread]
    apply (FailsBy.refuse_of_shown_nil rfl).congr
    simp [hnone]

end ClassDescriptor

/-- Reading gives one class for each description, in their order, and every other outcome is a
refusal of the document, but for numbers that are too long to be written. -/
theorem reading_fails_by (v : Value) :
    (∀ ds, ClassDescriptor.listOfDocument v = .ok ds ↔
      ∃ items, ClassDescriptor.Describes (ClassDescriptor.bodyOf v) items ∧
        List.Forall₂ (fun entry d => ClassDescriptor.ofDocument entry = .ok d) items ds) ∧
    FailsBy (ClassDescriptor.listOfDocument v) (ClassDescriptor.DocumentUnwritten v) ∧
    FailsBy (ClassDescriptor.ofDocument v) (ClassDescriptor.Unwritten v) ∧
    FailsBy (FieldDescriptor.ofDocument v) (FieldDescriptor.Unwritten v) ∧
    FailsBy (Constraint.ofDocument v) (Constraint.Unwritten v) ∧
    ∀ s, FailsBy ((TypeRef.ofString s).mapError fun e => .generation (.badDocument (.type e)))
      False :=
  ⟨ClassDescriptor.listOfDocument_eq_ok_iff v, ClassDescriptor.failsBy_listOfDocument v,
    ClassDescriptor.failsBy_ofDocument v, FieldDescriptor.failsBy_ofDocument v,
    Constraint.failsBy_ofDocument v, FieldDescriptor.failsBy_type⟩

/-- The number in place of a class has one digit too many to be shown. -/
theorem listOfDocument_longNumber :
    ClassDescriptor.listOfDocument (.list [.int (Int.ofNat (Nat.pow 10 4300))]) =
      .error (.fault (.longNumber none)) := by
  have hlong : (Value.int (Int.ofNat (Nat.pow 10 4300))).hasLongNumber = true := by decide +kernel
  apply (ClassDescriptor.failsBy_listOfDocument _).fault_iff.mpr
  refine ⟨[], _, [], .several rfl, by simp, .shape ?_ hlong⟩
  intro entries h
  cases h

end FluentBuilder
