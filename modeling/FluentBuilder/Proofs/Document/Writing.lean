import FluentBuilder.Proofs.Document.Parts
import FluentBuilder.Proofs.Text.Spelling
import FluentBuilder.Proofs.Traversal
import FluentBuilder.Proofs.TypeRef.Canonical

/-! Documents that describe given classes, and that reading such a document gives the classes back.
A document leaves much to its writer: the order of entries, entries that are as if absent, the
spelling of tags, and the order of member names. -/

namespace FluentBuilder

variable {entries : List (Value × Value)} {key : String} {items : List Value} {v : Value}

/-- The entry under the key is the value. The default needs no entry. -/
def Entry (entries : List (Value × Value)) (key : String) (default v : Value) : Prop :=
  Value.lookup? key entries = some v ∨ Value.lookup? key entries = none ∧ v = default

/-- The entry under the key is a list of the items. An empty list needs no entry. -/
def ListEntry (entries : List (Value × Value)) (key : String) (items : List Value) : Prop :=
  (∃ v, Value.lookup? key entries = some v ∧ v.opened = .list items) ∨
    Value.lookup? key entries = none ∧ items = []

theorem Entry.getD_eq {default : Value} (h : Entry entries key default v) :
    (Value.lookup? key entries).getD default = v := by
  obtain h | ⟨h, rfl⟩ := h
  · rw [h, Option.getD_some]
  · rw [h, Option.getD_none]

theorem Entry.isTrue_eq {b : Bool} (h : Entry entries key (.bool false) (.bool b)) :
    (entryOf key entries).isTrue = b := by
  unfold entryOf
  obtain h | ⟨h, hb⟩ := h
  · rw [h]
    rfl
  · obtain rfl := Value.bool.inj hb
    rw [h]
    rfl

theorem Value.length_relinkItems (target : Nat → Value) (items : List Value) :
    (relinkItems target items).length = items.length := by
  induction items with
  | nil => rfl
  | cons v rest ih => rw [relinkItems, List.length_cons, List.length_cons, ih]

theorem Value.eq_nil_of_isTrue (h : v.opened = .list items) (hv : v.isTrue = false) :
    items = [] := by
  -- A list stands by itself or in a knot, and one of a knot keeps its length when it is opened.
  cases v with
  | list l =>
    obtain rfl := Value.list.inj h
    simpa [isTrue, size?, ownSize?] using hv
  | knot cells start =>
    rw [opened, List.getD_eq_getElem?_getD] at h
    cases hc : cells[start]? with
    | none =>
      rw [hc] at h
      cases h
    | some c =>
      rw [hc, Option.getD_some] at h
      cases c with
      | list l =>
        obtain rfl := Value.list.inj h
        rw [← List.length_eq_zero_iff, length_relinkItems]
        simpa [isTrue, size?, hc, ownSize?] using hv
      | _ => cases h
  | _ => cases h

theorem ListEntry.lists (h : ListEntry entries key items) : Lists entries key items := by
  unfold Lists trueEntryOr entryOf
  obtain ⟨v, hv, hopened⟩ | ⟨hnone, rfl⟩ := h
  · rw [hv, Option.getD_some]
    by_cases ht : v.isTrue = true
    · rw [if_pos ht, hopened]
    · rw [if_neg ht, Value.eq_nil_of_isTrue hopened (by simpa using ht)]
      rfl
  · rw [hnone]
    rfl

namespace Constraint

/-- The words for a kind of constraint in documents. -/
def words : Constraint → List String
  | .nonNull => ["nonnull", "notnull"]
  | .nonEmpty => ["nonempty", "notempty"]
  | .range _ => ["range"]
  | .size .. => ["size", "sizebound"]
  | .pattern _ => ["pattern"]
  | .foreign _ => []

/-- The tag is a spelling of a word for the constraint. -/
def Tagged (k : Constraint) (tag : String) : Prop :=
  ∃ word ∈ k.words, Text.Spells word.toList tag.toList

inductive Options : Constraint → Value → Prop
  | nonNull (options : Value) : Options .nonNull options
  | nonEmpty (options : Value) : Options .nonEmpty options
  | range {b : RangeBounds} {options : Value} {entries : List (Value × Value)} :
      options.opened = .dict entries → Entry entries "min" .null b.min →
      Entry entries "max" .null b.max →
      Entry entries "min_exclusive" (.bool false) (.bool b.minExclusive) →
      Entry entries "max_exclusive" (.bool false) (.bool b.maxExclusive) →
      Options (.range b) options
  | size {min max options : Value} {entries : List (Value × Value)} :
      options.opened = .dict entries → Entry entries "min" (.int 0) min →
      Entry entries "max" .null max → Options (.size min max) options
  | pattern (regex : String) : Options (.pattern (.text regex)) (.text regex)
  | patternOption {regex : String} {options : Value} {entries : List (Value × Value)} :
      options.opened = .dict entries → Value.lookup? "regex" entries = some (.text regex) →
      Options (.pattern (.text regex)) options

/-- The value describes the constraint: by a tag alone if it has no options, or by a mapping from a
tag to its options. -/
inductive Written : Constraint → Value → Prop
  | bare {k : Constraint} {entry : Value} {tag : String} : k = .nonNull ∨ k = .nonEmpty →
      k.Tagged tag → entry.opened = .text tag → Written k entry
  | mapping {k : Constraint} {entry options : Value} {tag : String} : k.Tagged tag →
      k.Options options → entry.opened = .dict [(.text tag, options)] → Written k entry

theorem mem_plainLetters_of_mem_words {k : Constraint} {word : String} (h : word ∈ k.words) :
    ∀ c ∈ word.toList, c ∈ Text.plainLetters := by
  have hall : k.words.all (fun word => word.toList.all (Text.plainLetters.contains ·)) = true := by
    cases k <;> simp only [words] <;> decide
  intro c hc
  simpa using List.all_eq_true.mp (List.all_eq_true.mp hall word h) c hc

theorem Tagged.tagWord_mem {k : Constraint} {tag : String} (h : k.Tagged tag) :
    tagWord tag ∈ k.words := by
  obtain ⟨word, hword, hspells⟩ := h
  rwa [tagWord_of_spells hspells (mem_plainLetters_of_mem_words hword)]

theorem flagOf_of_entry {tag : Value} {b : Bool} (h : Entry entries key (.bool false) (.bool b)) :
    flagOf tag entries key = .ok b := by
  unfold flagOf
  obtain h | ⟨h, hb⟩ := h
  · rw [h]
  · obtain rfl := Value.bool.inj hb
    rw [h]

theorem rangeOf_of_options {tag options : Value} {b : RangeBounds}
    (h : (Constraint.range b).Options options) : rangeOf tag options = .ok (.range b) := by
  cases h with
  | range hopened hmin hmax hminExclusive hmaxExclusive =>
    unfold rangeOf entryOf
    have hoptions := (optionsOf_eq_ok_iff tag ..).mpr hopened
    simp only [hoptions, flagOf_of_entry hminExclusive, flagOf_of_entry hmaxExclusive,
      hmin.getD_eq, hmax.getD_eq, bind, Except.bind, pure, Except.pure]

theorem sizeOf_of_options {tag options min max : Value}
    (h : (Constraint.size min max).Options options) :
    sizeOf tag options = .ok (.size min max) := by
  cases h with
  | size hopened hmin hmax =>
    unfold sizeOf entryOf
    have hoptions := (optionsOf_eq_ok_iff tag ..).mpr hopened
    simp only [hoptions, hmin.getD_eq, hmax.getD_eq, bind, Except.bind, pure, Except.pure]

theorem patternOf_of_options {regex options : Value}
    (h : (Constraint.pattern regex).Options options) :
    patternOf options = .ok (.pattern regex) := by
  cases h with
  | pattern regex => rfl
  | patternOption hopened hregex =>
    unfold patternOf entryOf
    simp only [hopened, hregex, Option.getD_some]

theorem ofTag_of_options {k : Constraint} {tag : String} {options : Value} (hk : k.Tagged tag)
    (ho : k.Options options) : ofTag (.text tag) options = .ok k := by
  have hword := hk.tagWord_mem
  have htext : plainText (.text tag) = .ok tag := rfl
  simp only [ofTag, htext, bind, Except.bind]
  -- The reader looks at words, the writer at kinds: a word of a kind leads back to the kind.
  cases k <;> simp only [words, List.mem_cons, List.not_mem_nil, or_false] at hword
  case nonNull =>
    obtain h | h := hword <;> rw [h] <;> rfl
  case nonEmpty =>
    obtain h | h := hword <;> rw [h] <;> rfl
  case range b =>
    rw [hword]
    exact rangeOf_of_options ho
  case size min max =>
    obtain h | h := hword <;> rw [h] <;> exact sizeOf_of_options ho
  case pattern regex =>
    rw [hword]
    exact patternOf_of_options ho

theorem ofDocument_of_written {k : Constraint} {entry : Value} (h : k.Written entry) :
    ofDocument entry = .ok k := by
  unfold ofDocument
  cases h with
  | bare hk htag hopened =>
    rw [hopened]
    apply ofTag_of_options htag
    obtain rfl | rfl := hk
    · exact .nonNull _
    · exact .nonEmpty _
  | mapping htag hoptions hopened =>
    rw [hopened]
    exact ofTag_of_options htag hoptions

end Constraint

/-- The mapping describes the field: its name, the notation of its type, its constraints in their
order, and its flags. -/
structure FieldDescriptor.Described (f : FieldDescriptor) (entries : List (Value × Value)) :
    Prop where
  name : Value.lookup? "name" entries = some (.text f.name)
  type : ∃ t, f.type = some t ∧ t.Canonical ∧
    Value.lookup? "type" entries = some (.text t.render)
  constraints : ∃ items, ListEntry entries "constraints" items ∧
    List.Forall₂ Constraint.Written f.constraints items
  isStatic : Entry entries "static" (.bool false) (.bool f.isStatic)
  isTransient : Entry entries "transient" (.bool false) (.bool f.isTransient)
  isSynthetic : Entry entries "synthetic" (.bool false) (.bool f.isSynthetic)
  isExcluded : Entry entries "excluded" (.bool false) (.bool f.isExcluded)

/-- The value is a mapping that describes the field. -/
def FieldDescriptor.Written (f : FieldDescriptor) (entry : Value) : Prop :=
  ∃ entries, entry.opened = .dict entries ∧ f.Described entries

theorem FieldDescriptor.ofDocument_of_written {f : FieldDescriptor} {entry : Value}
    (h : f.Written entry) : ofDocument entry = .ok f := by
  obtain ⟨entries, hopened, hf⟩ := h
  obtain ⟨t, ht, hcanonical, htype⟩ := hf.type
  obtain ⟨items, hitems, hwritten⟩ := hf.constraints
  have hname : entryOf "name" entries = .text f.name := by
    rw [entryOf, hf.name, Option.getD_some]
  have hrender : entryOf "type" entries = .text t.render := by
    rw [entryOf, htype, Option.getD_some]
  have hlist : constraintEntries f.name entries = .ok items :=
    (constraintEntries_eq_ok_iff ..).mpr hitems.lists
  have hread : TypeRef.ofString t.render = .ok t :=
    (hcanonical.denotes_of_spaced _ hcanonical.spaced_render).1.parse_eq
  have hconstraints : items.mapM Constraint.ofDocument = .ok f.constraints := by
    rw [mapM_eq_ok_iff]
    exact (hwritten.imp fun _ _ hk => Constraint.ofDocument_of_written hk).flip
  unfold ofDocument
  simp only [hopened, hname, hrender, hlist, hread, hconstraints, hf.isStatic.isTrue_eq,
    hf.isTransient.isTrue_eq, hf.isSynthetic.isTrue_eq, hf.isExcluded.isTrue_eq, bind, Except.bind,
    Except.mapError, pure, Except.pure, ← ht]

/-- The mapping describes the class: its name, its fields and type parameters in their order, and
the names of its members. -/
structure ClassDescriptor.Described (c : ClassDescriptor) (entries : List (Value × Value)) :
    Prop where
  name : Value.lookup? "name" entries = some (.text c.name)
  fields : ∃ items, ListEntry entries "fields" items ∧
    List.Forall₂ FieldDescriptor.Written c.fields items
  typeParameters : ListEntry entries "type_parameters" (c.typeParameters.map .text)
  members : ∃ names : List String, ListEntry entries "members" (names.map .text) ∧
    ∀ name, name ∈ names ↔ name ∈ c.memberNames

/-- The value is a mapping that describes the class. -/
def ClassDescriptor.Written (c : ClassDescriptor) (entry : Value) : Prop :=
  ∃ entries, entry.opened = .dict entries ∧ c.Described entries

/-- The classes are the same. Member names have neither an order nor a number. -/
structure ClassDescriptor.Same (c d : ClassDescriptor) : Prop where
  name : c.name = d.name
  fields : c.fields = d.fields
  typeParameters : c.typeParameters = d.typeParameters
  mem_memberNames : ∀ name, name ∈ c.memberNames ↔ name ∈ d.memberNames

theorem mapM_plainText (texts : List String) :
    (texts.map Value.text).mapM plainText = .ok texts := by
  rw [mapM_eq_ok_iff, List.forall₂_map_left_iff, List.forall₂_same]
  intro s _
  rfl

namespace ClassDescriptor

theorem exists_ofDocument_of_written {c : ClassDescriptor} {entry : Value} (h : c.Written entry) :
    ∃ d, ofDocument entry = .ok d ∧ d.Same c := by
  obtain ⟨entries, hopened, hc⟩ := h
  obtain ⟨items, hitems, hwritten⟩ := hc.fields
  obtain ⟨names, hnames, hmem⟩ := hc.members
  have hname : entryOf "name" entries = .text c.name := by
    rw [entryOf, hc.name, Option.getD_some]
  have hlist {key : String} {items : List Value} (h : ListEntry entries key items) :
      entriesOf c.name key entries = .ok items := (entriesOf_eq_ok_iff ..).mpr h.lists
  have hfields : items.mapM FieldDescriptor.ofDocument = .ok c.fields := by
    rw [mapM_eq_ok_iff]
    exact (hwritten.imp fun _ _ hf => FieldDescriptor.ofDocument_of_written hf).flip
  refine ⟨{ c with memberNames := names }, ?_, rfl, rfl, rfl, hmem⟩
  unfold ofDocument
  simp only [hopened, hname, hlist hitems, hlist hc.typeParameters, hlist hnames, hfields,
    mapM_plainText, bind, Except.bind, pure, Except.pure]

theorem exists_mapM_of_written {cs : List ClassDescriptor}
    (h : List.Forall₂ Written cs items) :
    ∃ ds, items.mapM ofDocument = .ok ds ∧ List.Forall₂ Same ds cs := by
  simp only [mapM_eq_ok_iff]
  induction h with
  | nil => exact ⟨[], .nil, .nil⟩
  | cons hc _ ih =>
    obtain ⟨d, hd, hsame⟩ := exists_ofDocument_of_written hc
    obtain ⟨ds, hds, hrest⟩ := ih
    exact ⟨d :: ds, .cons hd hds, .cons hsame hrest⟩

/-- The value describes one class, or it lists descriptions of classes. -/
inductive WrittenAll : List ClassDescriptor → Value → Prop
  | one {c : ClassDescriptor} {v : Value} : c.Written v → WrittenAll [c] v
  | list {cs : List ClassDescriptor} {v : Value} {items : List Value} : v.opened = .list items →
      List.Forall₂ Written cs items → WrittenAll cs v

/-- The document describes the classes, itself or under its key `classes`. -/
inductive DocumentOf : List ClassDescriptor → Value → Prop
  | top {cs : List ClassDescriptor} {v : Value} : WrittenAll cs v →
      (∀ entries, v.opened = .dict entries → Value.lookup? "classes" entries = none) →
      DocumentOf cs v
  | nested {cs : List ClassDescriptor} {v w : Value} {entries : List (Value × Value)} :
      v.opened = .dict entries → Value.lookup? "classes" entries = some w → WrittenAll cs w →
      DocumentOf cs v

theorem exists_listOf_of_writtenAll {cs : List ClassDescriptor} (h : WrittenAll cs v) :
    ∃ ds, listOf v = .ok ds ∧ List.Forall₂ Same ds cs := by
  unfold listOf
  cases h with
  | @one c _ hc =>
    obtain ⟨entries, hopened, hdescribed⟩ := hc
    have hwritten : c.Written (.dict entries) := ⟨entries, rfl, hdescribed⟩
    obtain ⟨d, hd, hsame⟩ := exists_ofDocument_of_written hwritten
    exact ⟨[d], by simp only [hopened, hd, Except.map], .cons hsame .nil⟩
  | list hopened hwritten =>
    rw [hopened]
    exact exists_mapM_of_written hwritten

theorem exists_listOfDocument_of_documentOf {cs : List ClassDescriptor} (h : DocumentOf cs v) :
    ∃ ds, listOfDocument v = .ok ds ∧ List.Forall₂ Same ds cs := by
  unfold listOfDocument
  cases h with
  | nested hopened hclasses hall =>
    simp only [hopened, hclasses, Option.getD_some]
    exact exists_listOf_of_writtenAll hall
  | top hall hnone =>
    cases hall with
    | @one c _ hc =>
      obtain ⟨entries, hopened, hdescribed⟩ := hc
      have hwritten : c.Written (.dict entries) := ⟨entries, rfl, hdescribed⟩
      simp only [hopened, hnone entries hopened, Option.getD_none]
      exact exists_listOf_of_writtenAll (.one hwritten)
    | list hopened hwritten =>
      simp only [hopened]
      exact exists_listOf_of_writtenAll (.list hopened hwritten)

/-- Reading a description of a class gives the class back, and reading a document that describes
several classes gives these in their order. -/
theorem reading_undoes_writing :
    (∀ c v, Written c v → ∃ d, ofDocument v = .ok d ∧ d.Same c) ∧
      ∀ cs v, DocumentOf cs v → ∃ ds, listOfDocument v = .ok ds ∧ List.Forall₂ Same ds cs :=
  ⟨fun _ _ => exists_ofDocument_of_written, fun _ _ => exists_listOfDocument_of_documentOf⟩

end ClassDescriptor

/-- A class with all kinds of constraints. -/
def voucher : ClassDescriptor where
  name := "Voucher"
  typeParameters := ["T"]
  memberNames := ["open", "close"]
  fields := [
    { name := "code", type := some { name := "String", kind := .text },
      constraints := [.nonNull, .pattern (.text "[A-Z]+")] },
    { name := "seats", type := some (.arrayOf { name := "int", kind := .scalar }),
      constraints := [.nonEmpty, .size (.int 0) (.int 4)], isTransient := true },
    { name := "price", type := some { name := "int", kind := .scalar },
      constraints := [.range { min := .int 1, maxExclusive := true }] }]

/-- A description of the class with tags in odd spellings, entries left out, entries in another
order, and a member named twice. -/
def voucherDocument : Value :=
  .dict [
    (.text "members", .list [.text "close", .text "open", .text "close"]),
    (.text "fields", .list [
      .dict [(.text "name", .text "code"), (.text "type", .text "String"),
        (.text "constraints", .list [.text "Not-Null",
          .dict [(.text "pattern", .dict [(.text "regex", .text "[A-Z]+")])]])],
      .dict [(.text "transient", .bool true), (.text "type", .text "int[]"),
        (.text "name", .text "seats"), (.text "static", .bool false),
        (.text "constraints", .list [.dict [(.text "non_empty", .null)],
          .dict [(.text "SIZE", .dict [(.text "max", .int 4)])]])],
      .dict [(.text "name", .text "price"), (.text "type", .text "int"),
        (.text "constraints", .list [.dict [(.text "Range_",
          .dict [(.text "max_exclusive", .bool true), (.text "min", .int 1)])]])]]),
    (.text "type_parameters", .list [.text "T"]),
    (.text "name", .text "Voucher")]

theorem voucher_written : voucher.Written voucherDocument := by
  have hnotNull : Constraint.nonNull.Tagged "Not-Null" :=
    ⟨"notnull", by simp [Constraint.words], .capital <| .small <| .small <| .hyphen <| .capital <|
      .small <| .small <| .small .nil⟩
  have hpattern : (Constraint.pattern (.text "[A-Z]+")).Tagged "pattern" :=
    ⟨"pattern", by simp [Constraint.words], .small <| .small <| .small <| .small <| .small <|
      .small <| .small .nil⟩
  have hnonEmpty : Constraint.nonEmpty.Tagged "non_empty" :=
    ⟨"nonempty", by simp [Constraint.words], .small <| .small <| .small <| .underscore <| .small <|
      .small <| .small <| .small <| .small .nil⟩
  have hsize : (Constraint.size (.int 0) (.int 4)).Tagged "SIZE" :=
    ⟨"size", by simp [Constraint.words], .capital <| .capital <| .capital <| .capital .nil⟩
  have hrange : (Constraint.range { min := .int 1, maxExclusive := true }).Tagged "Range_" :=
    ⟨"range", by simp [Constraint.words], .capital <| .small <| .small <| .small <| .small <|
      .underscore .nil⟩
  have hint : ({ name := "int", kind := .scalar } : TypeRef).Canonical :=
    .leaf (by decide +kernel) (.scalar (by decide))
  have hstring : ({ name := "String", kind := .text } : TypeRef).Canonical :=
    .leaf (by decide +kernel) (.text (by decide))
  refine ⟨_, rfl, rfl, ⟨_, .inl ⟨_, rfl, rfl⟩, .cons ?_ (.cons ?_ (.cons ?_ .nil))⟩,
    .inl ⟨_, rfl, rfl⟩, ⟨["close", "open", "close"], .inl ⟨_, rfl, rfl⟩, ?_⟩⟩
  · refine ⟨_, rfl, rfl, ⟨_, rfl, hstring, rfl⟩, ⟨_, .inl ⟨_, rfl, rfl⟩, ?_⟩, ?_, ?_, ?_, ?_⟩
    · exact .cons (.bare (.inl rfl) hnotNull rfl)
        (.cons (.mapping hpattern (.patternOption rfl rfl) rfl) .nil)
    all_goals exact .inr ⟨rfl, rfl⟩
  · refine ⟨_, rfl, rfl, ⟨_, rfl, .array hint, rfl⟩, ⟨_, .inl ⟨_, rfl, rfl⟩, ?_⟩, ?_, ?_, ?_, ?_⟩
    · exact .cons (.mapping hnonEmpty (.nonEmpty _) rfl)
        (.cons (.mapping hsize (.size rfl (.inr ⟨rfl, rfl⟩) (.inl rfl)) rfl) .nil)
    · exact .inl rfl
    · exact .inl rfl
    all_goals exact .inr ⟨rfl, rfl⟩
  · refine ⟨_, rfl, rfl, ⟨_, rfl, hint, rfl⟩, ⟨_, .inl ⟨_, rfl, rfl⟩, ?_⟩, ?_, ?_, ?_, ?_⟩
    · exact .cons (.mapping hrange (.range rfl (.inl rfl) (.inr ⟨rfl, rfl⟩) (.inr ⟨rfl, rfl⟩)
        (.inl rfl)) rfl) .nil
    all_goals exact .inr ⟨rfl, rfl⟩
  · simp [voucher, or_comm]

theorem reading_undoes_writing_voucher :
    voucher.Written voucherDocument ∧
      ClassDescriptor.DocumentOf [voucher, voucher] (.dict [(.text "classes", .list
        [voucherDocument, voucherDocument])]) ∧
      (∃ d, ClassDescriptor.ofDocument voucherDocument = .ok d ∧ d.Same voucher) ∧
      ∃ ds, ClassDescriptor.listOfDocument (.dict [(.text "classes", .list
        [voucherDocument, voucherDocument])]) = .ok ds ∧
        List.Forall₂ ClassDescriptor.Same ds [voucher, voucher] := by
  have hboth : ClassDescriptor.DocumentOf [voucher, voucher] (.dict [(.text "classes", .list
      [voucherDocument, voucherDocument])]) :=
    .nested rfl rfl (.list rfl (.cons voucher_written (.cons voucher_written .nil)))
  exact ⟨voucher_written, hboth, ClassDescriptor.reading_undoes_writing.1 _ _ voucher_written,
    ClassDescriptor.reading_undoes_writing.2 _ _ hboth⟩

end FluentBuilder
