import FluentBuilder.Builder.Basic

/-! Equality of values, and of what builders give, can be decided. -/

namespace FluentBuilder

namespace Value

mutual

/-- The values are built in the same way. -/
def same : Value → Value → Bool
  | .null, .null => true
  | .bool a, .bool b => a == b
  | .int a, .int b => a == b
  | .float a, .float b => a == b
  | .decimal a, .decimal b => a == b
  | .fraction a, .fraction b => a == b
  | .text a, .text b => a == b
  | .bytes a, .bytes b => a == b
  | .date a, .date b => a == b
  | .moment a, .moment b => a == b
  | .list a, .list b => sameItems a b
  | .tuple a, .tuple b => sameItems a b
  | .set a, .set b => sameItems a b
  | .dict a, .dict b => sameEntries a b
  | .knot a i, .knot b j => sameItems a b && i == j
  | .link i, .link j => i == j
  | _, _ => false

def sameItems : List Value → List Value → Bool
  | [], [] => true
  | a :: as, b :: bs => same a b && sameItems as bs
  | _, _ => false

def sameEntries : List (Value × Value) → List (Value × Value) → Bool
  | [], [] => true
  | (k, v) :: as, (l, w) :: bs => same k l && same v w && sameEntries as bs
  | _, _ => false

end

mutual

theorem same_iff : ∀ a b : Value, same a b = true ↔ a = b
  | .list a, b => by cases b <;> simp [same, sameItems_iff a]
  | .tuple a, b => by cases b <;> simp [same, sameItems_iff a]
  | .set a, b => by cases b <;> simp [same, sameItems_iff a]
  | .dict a, b => by cases b <;> simp [same, sameEntries_iff a]
  | .knot a i, b => by cases b <;> simp [same, sameItems_iff a]
  | .null, b | .bool _, b | .int _, b | .float _, b | .decimal _, b | .fraction _, b
  | .text _, b | .bytes _, b | .date _, b | .moment _, b | .link _, b => by
    cases b <;> simp [same]

theorem sameItems_iff : ∀ as bs : List Value, sameItems as bs = true ↔ as = bs
  | [], bs => by cases bs <;> simp [sameItems]
  | a :: as, bs => by cases bs <;> simp [sameItems, same_iff a, sameItems_iff as]

theorem sameEntries_iff : ∀ as bs : List (Value × Value), sameEntries as bs = true ↔ as = bs
  | [], bs => by cases bs <;> simp [sameEntries]
  | (k, v) :: as, bs => by
    rcases bs with _ | ⟨⟨l, w⟩, bs⟩
    · simp [sameEntries]
    · simp [sameEntries, same_iff k, same_iff v, sameEntries_iff as]

end

instance : DecidableEq Value := fun a b => decidable_of_iff _ (same_iff a b)

end Value

deriving instance DecidableEq for Reading

end FluentBuilder
