import FluentBuilder.Proofs.Class.Identifier
import FluentBuilder.Proofs.Rule.Message
import FluentBuilder.Proofs.Spec.Bystander

/-! The lines of the comments for setters. A comment consists of items, and it is written as their
texts with line feeds between them. Each item has a line of its own as long as no text that the class
brings along holds a line feed itself: the type of the field, or one of its patterns. -/

namespace FluentBuilder

namespace Text

/-- The lines of a text, with line feeds between them. -/
def linesOf (text : String) : List String := (text.toList.splitOn '\n').map String.ofList

theorem notMem_of_mem_splitOn {α : Type} [DecidableEq α] {x : α} {xs piece : List α}
    (h : piece ∈ xs.splitOn x) : x ∉ piece := by
  induction xs generalizing piece with
  | nil =>
    obtain rfl : piece = [] := by simpa using h
    exact List.not_mem_nil
  | cons y ys ih =>
    rw [List.splitOn_cons_eq_if_modifyHead] at h
    by_cases hy : y = x
    · rw [if_pos (by simpa using hy)] at h
      rcases List.mem_cons.mp h with rfl | h
      · exact List.not_mem_nil
      · exact ih h
    · obtain ⟨first, rest, hsplit⟩ := List.exists_cons_of_ne_nil (List.splitOn_ne_nil x ys)
      rw [if_neg (by simpa using hy), hsplit, List.modifyHead_cons] at h
      rw [hsplit] at ih
      rcases List.mem_cons.mp h with rfl | h
      · have hfirst : x ∉ first := ih List.mem_cons_self
        rw [List.mem_cons, not_or]
        exact ⟨Ne.symm hy, hfirst⟩
      · exact ih (List.mem_cons_of_mem _ h)

theorem lineFeed_notMem_of_mem_linesOf {text line : String} (h : line ∈ linesOf text) :
    '\n' ∉ line.toList := by
  obtain ⟨piece, hpiece, rfl⟩ := List.mem_map.mp h
  rw [String.toList_ofList]
  exact notMem_of_mem_splitOn hpiece

theorem linesOf_eq_singleton {text : String} (h : '\n' ∉ text.toList) : linesOf text = [text] := by
  unfold linesOf
  rw [List.splitOn_eq_singleton h, List.map_singleton, String.ofList_toList]

variable {texts : List String}

theorem linesOf_intercalate (hne : texts ≠ []) :
    linesOf ("\n".intercalate texts) = texts.flatMap linesOf := by
  have hfeed : "\n".toList = ['\n'] := rfl
  unfold linesOf
  rw [String.toList_intercalate, hfeed]
  induction texts with
  | nil => exact absurd rfl hne
  | cons first rest ih =>
    cases rest with
    | nil => simp
    | cons second rest =>
      have hrest := ih (List.cons_ne_nil second rest)
      rw [List.map_cons, List.intercalate_cons_of_ne_nil (by simp), List.append_assoc,
        List.singleton_append, List.splitOn_append_cons_self, List.map_append, hrest]
      rfl

theorem flatMap_linesOf_eq_iff :
    texts.flatMap linesOf = texts ↔ ∀ text ∈ texts, '\n' ∉ text.toList := by
  constructor
  · intro h text htext
    rw [← h] at htext
    obtain ⟨whole, -, hline⟩ := List.mem_flatMap.mp htext
    exact lineFeed_notMem_of_mem_linesOf hline
  · intro h
    have hsingle : texts.flatMap linesOf = texts.flatMap ([·]) :=
      List.flatMap_congr fun text htext => linesOf_eq_singleton (h text htext)
    rw [hsingle, List.flatMap_singleton']

end Text

inductive CommentItem
  | summary
  | elements (element : TypeRef)
  | gap
  | heading
  | demand (rule : Rule)
  | parameter
  | result
  | violation

def CommentItem.text (name : String) (t : TypeRef) : CommentItem → String
  | .summary => "Sets the value of " ++ name ++ "."
  | .elements element =>
    "Accepts any number of " ++ element.render ++ " values, stored as " ++ t.render ++ "."
  | .gap => ""
  | .heading => "Constraints:"
  | .demand rule => "- " ++ rule.message
  | .parameter => "@param " ++ name ++ " the new value (" ++ t.render ++ ")"
  | .result => "@return this builder"
  | .violation => "@throws ConstraintViolation if the value breaks a constraint"

def elementItems (t : TypeRef) : List CommentItem :=
  match t.kind, t.element with
  | .array, some element => [.elements element]
  | _, _ => []

/-- The items of a comment, in order. Without rules nothing is said about constraints. -/
def commentItems (t : TypeRef) : List Rule → List CommentItem
  | [] => .summary :: elementItems t ++ [.gap, .parameter, .result]
  | rules => .summary :: elementItems t ++ .gap :: .heading :: rules.map .demand ++
      [.gap, .parameter, .result, .violation]

section Items

variable {t : TypeRef} {rules : List Rule} {item : CommentItem}

theorem mem_elementItems_iff :
    item ∈ elementItems t ↔
      ∃ element, t.kind = .array ∧ t.element = some element ∧ item = .elements element := by
  unfold elementItems
  split
  · rename_i element hk hs
    simp [hk, hs]
  · rename_i hnone
    simp only [List.not_mem_nil, false_iff]
    rintro ⟨element, hk, hs, -⟩
    exact hnone element hk hs

theorem parameter_mem_commentItems : .parameter ∈ commentItems t rules := by
  cases rules <;> simp [commentItems]

theorem demand_mem_commentItems_iff {r : Rule} :
    .demand r ∈ commentItems t rules ↔ r ∈ rules := by
  cases rules <;> simp [commentItems, mem_elementItems_iff]

theorem elements_mem_commentItems_iff {element : TypeRef} :
    .elements element ∈ commentItems t rules ↔ t.kind = .array ∧ t.element = some element := by
  cases rules <;> simp [commentItems, mem_elementItems_iff]

/-- What the item takes from the class holds a line feed. -/
def CommentItem.Breaks (t : TypeRef) : CommentItem → Prop
  | .elements element => '\n' ∈ element.render.toList ∨ '\n' ∈ t.render.toList
  | .demand rule => '\n' ∈ rule.message.toList
  | .parameter => '\n' ∈ t.render.toList
  | _ => False

theorem CommentItem.lineFeed_mem_text_iff {name : String} (hname : '\n' ∉ name.toList) :
    '\n' ∈ (item.text name t).toList ↔ item.Breaks t := by
  unfold text Breaks
  cases item <;> simp [hname]

theorem forall_not_breaks_iff :
    (∀ item ∈ commentItems t rules, ¬ item.Breaks t) ↔
      '\n' ∉ t.render.toList ∧ ∀ r ∈ rules, '\n' ∉ r.message.toList := by
  constructor
  · intro h
    exact ⟨h .parameter parameter_mem_commentItems,
      fun r hr => h (.demand r) (demand_mem_commentItems_iff.mpr hr)⟩
  · rintro ⟨hrender, hmessages⟩ item hitem hbreaks
    cases item with
    | elements element =>
      -- The type of an array is written with that of its elements in front.
      obtain ⟨hk, hs⟩ := elements_mem_commentItems_iff.mp hitem
      have helement : '\n' ∉ element.render.toList := by
        intro hmem
        apply hrender
        rw [TypeRef.render_of_array hk hs, String.toList_append]
        exact List.mem_append_left _ hmem
      exact hbreaks.elim helement hrender
    | demand r => exact hmessages r (demand_mem_commentItems_iff.mp hitem) hbreaks
    | parameter => exact hrender hbreaks
    | _ => exact hbreaks

variable (he : t.kind = .array → t.element ≠ none) (name : String) (rules)
include he

theorem arrayLines_eq : arrayLines t = .ok ((elementItems t).map (·.text name t)) := by
  unfold arrayLines elementItems
  by_cases hk : t.kind = .array
  · obtain ⟨element, hs⟩ := Option.ne_none_iff_exists'.mp (he hk)
    rw [if_pos hk, hk, hs]
    rfl
  · rw [if_neg hk]
    split
    · rename_i h _
      exact absurd h hk
    · rfl

theorem documentationLines_eq :
    documentationLines name t rules = .ok ((commentItems t rules).map (·.text name t)) := by
  unfold documentationLines
  rw [arrayLines_eq he name]
  refine congrArg Except.ok ?_
  -- Both sides decide on whether there are rules, so they meet in each of the two cases.
  cases rules with
  | nil =>
    simp only [commentItems, List.map_append, List.map_cons, List.isEmpty_nil, if_true,
      List.append_nil]
    rfl
  | cons r rules =>
    simp only [commentItems, List.map_append, List.map_cons, List.map_map, List.isEmpty_cons,
      Bool.false_eq_true, if_false, List.append_assoc]
    rfl

end Items

open Text

variable {c : ClassDescriptor} {s : BuilderSpec}

theorem exists_resolved_of_assemble (h : assemble c = .ok s) {f : FieldDescriptor}
    (hf : f ∈ c.qualifyingFields) :
    ∃ t rules, f.type = some t ∧ (t.kind = .array → t.element ≠ none) ∧
      resolveConstraints c.name f = .ok rules := by
  obtain ⟨fields, hr, -⟩ := Resolution.of_assemble h
  obtain ⟨r, hmem, hfr⟩ := hr.exists_resolved hf
  obtain ⟨-, htype, hrules⟩ := (resolveField_eq_ok_iff ..).mp hfr
  exact ⟨r.type, r.rules, htype, hr.element_ne_none r hmem, hrules⟩

/-- The comment for a field that takes part tells its items in order, with one item for each rule in
the order of the constraints. If a text of an item holds line feeds, the item goes over as many lines
more. Each item has just one line exactly if there is no line feed in the type of the field and in
its patterns. -/
theorem comment_lines (h : assemble c = .ok s) {f : FieldDescriptor}
    (hf : f ∈ c.qualifyingFields) :
    ∃ t rules doc, f.type = some t ∧ resolveConstraints c.name f = .ok rules ∧
      rules.map (·.constraint) = f.constraints ∧ documentSetter f rules = .ok doc ∧
      linesOf doc = ((commentItems t rules).map (·.text f.name t)).flatMap linesOf ∧
      (linesOf doc = (commentItems t rules).map (·.text f.name t) ↔
        '\n' ∉ t.render.toList ∧
          ∀ regex, .pattern (.text regex) ∈ f.constraints → '\n' ∉ regex.toList) := by
  obtain ⟨t, rules, htype, he, hrules⟩ := exists_resolved_of_assemble h hf
  have hname : '\n' ∉ f.name.toList := by
    obtain ⟨hall, -⟩ := soundFields_of_assemble h
    exact lineFeed_notMem_of_isName (hall f (List.mem_of_mem_filter hf)).1
  have hdoc : documentSetter f rules =
      .ok ("\n".intercalate ((commentItems t rules).map (·.text f.name t))) := by
    unfold documentSetter
    rw [htype]
    dsimp only
    rw [documentationLines_eq rules he f.name]
    rfl
  have hne : (commentItems t rules).map (·.text f.name t) ≠ [] :=
    List.ne_nil_of_mem (List.mem_map_of_mem parameter_mem_commentItems)
  have hlines := linesOf_intercalate hne
  refine ⟨t, rules, _, htype, hrules, map_constraint_eq hrules, hdoc, hlines, ?_⟩
  rw [hlines, flatMap_linesOf_eq_iff, List.forall_mem_map,
    ← lineFeed_notMem_messages_iff hrules hname]
  simp only [CommentItem.lineFeed_mem_text_iff hname]
  exact forall_not_breaks_iff

/-- The comment for the things of a crate has its items as lines. -/
theorem comment_lines_crate :
    ∃ t rules doc, documentSetter crateThings rules = .ok doc ∧
      rules.map (·.constraint) = [.nonEmpty] ∧
      linesOf doc = (commentItems t rules).map (·.text "things" t) := by
  obtain ⟨s, hs⟩ := exists_eq_ok_of_toBool (x := assemble crate) (by decide +kernel)
  have hf : crateThings ∈ crate.qualifyingFields := List.mem_singleton_self crateThings
  obtain ⟨t, rules, doc, htype, -, hconstraints, hdoc, -, hiff⟩ := comment_lines hs hf
  refine ⟨t, rules, doc, hdoc, hconstraints, hiff.mpr ⟨?_, ?_⟩⟩
  · obtain rfl : .arrayOf { name := "Thing", kind := .reference } = t := Option.some.inj htype
    decide
  · intro regex hmem
    simp [crateThings] at hmem

def verseText : FieldDescriptor where
  name := "text"
  type := some { name := "String", kind := .text }
  constraints := [.pattern (.text "a\nb")]

/-- A class with a text whose pattern holds a line feed. -/
def verse : ClassDescriptor where
  name := "Verse"
  fields := [verseText]

def verseLines : List String :=
  ["Sets the value of text.", "", "Constraints:", "- text must match pattern a", "b", "",
    "@param text the new value (String)", "@return this builder",
    "@throws ConstraintViolation if the value breaks a constraint"]

/-- The message on a pattern with a line feed takes two lines of the comment. -/
theorem message_split_over_lines :
    ∃ s rules doc, assemble verse = .ok s ∧ verseText ∈ verse.qualifyingFields ∧
      resolveConstraints verse.name verseText = .ok rules ∧
      documentSetter verseText rules = .ok doc ∧ linesOf doc = verseLines ∧
      ∀ t, linesOf doc ≠ (commentItems t rules).map (·.text "text" t) := by
  obtain ⟨s, hs⟩ := exists_eq_ok_of_toBool (x := assemble verse) (by decide +kernel)
  have hf : verseText ∈ verse.qualifyingFields := List.mem_singleton_self verseText
  obtain ⟨rules, hrules, hdocs⟩ := exists_eq_ok_of_any
    (x := resolveConstraints verse.name verseText)
    (p := fun rules => (documentSetter verseText rules).toOption.any (linesOf · = verseLines))
    (by decide +kernel)
  obtain ⟨doc, hdoc, hlines⟩ := exists_eq_ok_of_any hdocs
  refine ⟨s, rules, doc, hs, hf, hrules, hdoc, of_decide_eq_true hlines, fun t heq => ?_⟩
  have hmessages : ∀ r ∈ rules, '\n' ∉ r.message.toList := by
    intro r hr
    have hline : "- " ++ r.message ∈ linesOf doc := by
      rw [heq]
      exact List.mem_map.mpr ⟨.demand r, demand_mem_commentItems_iff.mpr hr, rfl⟩
    have hfree := lineFeed_notMem_of_mem_linesOf hline
    simpa using hfree
  have hpattern := (lineFeed_notMem_messages_iff hrules (by decide)).mp hmessages "a\nb"
    (List.mem_singleton_self _)
  revert hpattern
  decide

end FluentBuilder
