import FluentBuilder.Document.Class

/-! The parts of documents: which of them can be taken for what the reader asks for. -/

namespace FluentBuilder

theorem plainText_eq_ok_iff (v : Value) (s : String) :
    plainText v = .ok s ↔ v.hasLongNumber = false ∧ v.plain = s := by
  unfold plainText
  cases v.hasLongNumber <;> simp

/-- The entry under the key is a list of the items. What counts as false is an empty list. -/
def Lists (entries : List (Value × Value)) (key : String) (items : List Value) : Prop :=
  (trueEntryOr key (.list []) entries).opened = .list items

theorem listed_eq_ok_iff (d : DocumentError) (v : Value) (items : List Value) :
    (match v with
      | .list items => .ok items
      | _ => refuseDocument d : Except Failure (List Value)) = .ok items ↔ v = .list items := by
  split
  · rw [Except.ok.injEq, Value.list.injEq]
  · rename_i h
    exact ⟨fun he => (nomatch he), fun he => absurd he (h items)⟩

theorem Constraint.optionsOf_eq_ok_iff (tag options : Value) (entries : List (Value × Value)) :
    optionsOf tag options = .ok entries ↔ options.opened = .dict entries := by
  unfold optionsOf
  split
  · rename_i found h
    rw [h, Except.ok.injEq, Value.dict.injEq]
  · rename_i h
    exact ⟨fun he => (nomatch he), fun he => absurd he (h entries)⟩

theorem FieldDescriptor.constraintEntries_eq_ok_iff (name : String)
    (entries : List (Value × Value)) (items : List Value) :
    constraintEntries name entries = .ok items ↔ Lists entries "constraints" items :=
  listed_eq_ok_iff ..

theorem ClassDescriptor.entriesOf_eq_ok_iff (owner key : String) (entries : List (Value × Value))
    (items : List Value) : entriesOf owner key entries = .ok items ↔ Lists entries key items :=
  listed_eq_ok_iff ..

end FluentBuilder
