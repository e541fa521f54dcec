import FluentBuilder.Proofs.Traversal
import FluentBuilder.Yaml.Document

/-! What is wrong with the tokens and the nodes of a text makes it malformed, by the types of their
readers, apart from one thing: an escape whose code is that of no character. -/

namespace FluentBuilder.Yaml

variable {α β : Type} {P : ContentFault → Prop}

def FaultsOnly (P : ContentFault → Prop) (x : Except Flaw α) : Prop :=
  ∀ fault, x = .error (.content fault) → P fault

namespace FaultsOnly

@[simp]
theorem ok (a : α) : FaultsOnly P (.ok a : Except Flaw α) := nofun

@[simp]
theorem pure (a : α) : FaultsOnly P (Pure.pure a : Except Flaw α) := nofun

@[simp]
theorem malformed : FaultsOnly P (.error .malformed : Except Flaw α) := nofun

/-- The rules of the format say nothing about content. -/
@[simp]
theorem liftM (x : Except Malformed α) : FaultsOnly P (liftM x : Except Flaw α) := by
  intro fault h
  cases x with
  | ok a => cases h
  | error e => cases h

@[simp]
theorem monadLift (x : Except Malformed α) : FaultsOnly P (monadLift x : Except Flaw α) := liftM x

@[simp]
theorem bind_iff {x : Except Flaw α} {f : α → Except Flaw β} :
    FaultsOnly P (x >>= f) ↔ FaultsOnly P x ∧ ∀ a, x = .ok a → FaultsOnly P (f a) := by
  simp only [FaultsOnly, bind_eq_error_iff]
  constructor
  · intro h
    exact ⟨fun fault hx => h fault (.inl hx), fun a ha fault hf => h fault (.inr ⟨a, ha, hf⟩)⟩
  · rintro ⟨hx, hf⟩ fault (h | ⟨a, ha, h⟩)
    · exact hx fault h
    · exact hf a ha fault h

@[simp]
theorem map_iff {x : Except Flaw α} {f : α → β} :
    FaultsOnly P (f <$> x) ↔ FaultsOnly P x := by
  cases x <;> simp [FaultsOnly]

@[simp]
theorem ite_iff {c : Prop} [Decidable c] {x y : Except Flaw α} :
    FaultsOnly P (if c then x else y) ↔ (c → FaultsOnly P x) ∧ (¬ c → FaultsOnly P y) := by
  split <;> simp [*]

end FaultsOnly

inductive EscapeFault : ContentFault → Prop
  | intro {code : ℕ} : 0x10FFFF < code → EscapeFault (.beyondUnicode code)

theorem faultsOnly_readCoded (width : ℕ) (s : Rest) :
    FaultsOnly EscapeFault (readCoded width s) := by
  unfold readCoded
  simp only [FaultsOnly.bind_iff, FaultsOnly.monadLift, true_and]
  intro a _
  split_ifs with h
  · intro fault hf
    cases hf
    exact .intro h
  · simp

theorem faultsOnly_readEscape (s : Rest) : FaultsOnly EscapeFault (readEscape s) := by
  unfold readEscape
  split
  · simp
  · exact faultsOnly_readCoded _ _
  · simp

theorem faultsOnly_doublePiece (s : Rest) : FaultsOnly EscapeFault (doublePiece s) := by
  simp [doublePiece, faultsOnly_readEscape]

theorem faultsOnly_readQuotedFrom (quote : Char) (s : Rest) (steps : ℕ) :
    FaultsOnly EscapeFault (readQuotedFrom quote s steps) := by
  induction steps generalizing s with
  | zero => simp [readQuotedFrom]
  | succ steps ih => simp [readQuotedFrom, faultsOnly_doublePiece, ih]

theorem faultsOnly_readToken (l : Layout) (place : Located) (s : Rest) :
    FaultsOnly EscapeFault (readToken l place s) := by
  simp [readToken, readQuoted, faultsOnly_readQuotedFrom]

theorem escapeFault_of_tokensFrom {l : Layout} {s : Rest} {steps : ℕ} {ts : Tokens}
    {fault : ContentFault} (h : tokensFrom l s steps = .ok ts) (hf : ts.fault = some fault) :
    EscapeFault fault := by
  induction steps generalizing l s with
  | zero => cases h
  | succ steps ih =>
    unfold tokensFrom at h
    dsimp only at h
    split at h
    · cases h
    · rename_i place rest _
      obtain ⟨fresh, -, h⟩ := (bind_eq_ok_iff ..).mp h
      split_ifs at h
      · obtain ⟨closed, -, h⟩ := (bind_eq_ok_iff ..).mp h
        obtain rfl := Except.ok.inj h
        cases hf
      · split at h
        · exact ih h
        · cases h
        · rename_i escaped hescaped
          obtain rfl := Except.ok.inj h
          obtain rfl := Option.some.inj hf
          exact faultsOnly_readToken _ _ _ _ hescaped

/-- Nothing but an escape can end the tokens of a text that keeps the rules. -/
theorem escapeFault_of_tokensOf {text : List Char} {ts : Tokens} {fault : ContentFault}
    (h : tokensOf text = .ok ts) (hf : ts.fault = some fault) : EscapeFault fault := by
  unfold tokensOf at h
  split_ifs at h
  exact escapeFault_of_tokensFrom h hf

/-- The nodes are read without any fault but the one that ends the tokens. -/
theorem Node.fault_of_ofTokens? {ts : Tokens} :
    FaultsOnly (ts.fault = some ·) (Node.ofTokens? ts) := by
  intro fault h
  unfold Node.ofTokens? at h
  split at h
  · cases h
  · cases h
  · cases hf : ts.fault with
    | none =>
      rw [hf] at h
      cases h
    | some own =>
      rw [hf] at h
      cases h
      rfl

end FluentBuilder.Yaml
