import FluentBuilder.Proofs.Builder.Member

/-! Runs: calls on one builder, one after the other, with what came of each. The handoff may act on
the builder in turn, by calls of its own. -/

namespace FluentBuilder

/-- What was done with a builder, and what came of it. -/
structure Event where
  action : Action
  outcome : Except CallError Shown

/-- A build that returned. -/
def Event.isBuild : Event → Bool
  | ⟨.call member _, .ok _⟩ => member == buildName
  | _ => false

/-- The value that the event put into a field: what its setter was called with, if it returned. -/
def Event.accepted? (f : FieldDescriptor) : Event → Option Value
  | ⟨.call member arguments, .ok _⟩ =>
    if member = setterName f.name then f.argument? arguments else none
  | _ => none

/-- The value of the last call of a field's setter that returned. -/
def lastAccepted? (f : FieldDescriptor) (past : List Event) : Option Value :=
  past.reverse.findSome? (·.accepted? f)

theorem lastAccepted?_append (f : FieldDescriptor) (past more : List Event) :
    lastAccepted? f (past ++ more) = (lastAccepted? f more).or (lastAccepted? f past) := by
  simp [lastAccepted?, List.findSome?_append]

@[simp] theorem lastAccepted?_singleton (f : FieldDescriptor) (e : Event) :
    lastAccepted? f [e] = e.accepted? f := by
  simp [lastAccepted?]

namespace BuilderType

/-- The call asks the handoff: it builds, the builder is open, and its values keep all rules. -/
structure Asks (t : BuilderType) (b : Builder) (a : Action) : Prop where
  action_eq : a = .call buildName []
  built_eq : b.built = false
  validate_eq : b.validate t.spec.validate.rules = .ok ()

def withHandoff (t : BuilderType) (h : Work Result) : BuilderType := { t with handoff := h }

def event (t : BuilderType) (a : Action) (b : Builder) : Event := ⟨a, ((t.act a).on b).1⟩

def after (t : BuilderType) (a : Action) (b : Builder) : Builder := ((t.act a).on b).2

/-- From one builder to another with the events on the way, in the order in which they end. A
handoff may do something else each time it is asked; what it does to the builder is a run as well,
all of it before the end of the call that asked. -/
inductive Run (t : BuilderType) : Builder → List Event → Builder → Prop
  | nil (b : Builder) : Run t b [] b
  | plain {b b₁ : Builder} {past : List Event} (a : Action) :
      Run t b past b₁ → ¬ t.Asks b₁ a → Run t b (past ++ [t.event a b₁]) (t.after a b₁)
  | handing {b b₁ : Builder} {past inner : List Event} {a : Action} (h : Work Result) :
      Run t b past b₁ → t.Asks b₁ a → Run t b₁ inner (h.on b₁).2 →
      Run t b (past ++ inner ++ [(t.withHandoff h).event a b₁]) ((t.withHandoff h).after a b₁)

theorem Run.trans {t : BuilderType} {b b₁ b₂ : Builder} {past more : List Event}
    (h : t.Run b past b₁) (h' : t.Run b₁ more b₂) : t.Run b (past ++ more) b₂ := by
  induction h' with
  | nil => simpa using h
  | plain a _ hn ih =>
    rw [← List.append_assoc]
    exact .plain a (ih h) hn
  | handing w _ hq hi ih _ =>
    rw [← List.append_assoc, ← List.append_assoc]
    exact .handing w (ih h) hq hi

def trace (t : BuilderType) (b : Builder) : List Action → List Event
  | [] => []
  | a :: rest => t.event a b :: t.trace (t.after a b) rest

def afterAll (t : BuilderType) (b : Builder) : List Action → Builder
  | [] => b
  | a :: rest => t.afterAll (t.after a b) rest

/-- The handoff leaves every builder as it is. -/
def Idle (t : BuilderType) : Prop := ∀ b, (t.handoff.on b).2 = b

theorem Run.single {t : BuilderType} (h : t.Idle) (a : Action) (b : Builder) :
    t.Run b [t.event a b] (t.after a b) := by
  by_cases hq : t.Asks b a
  · have hi : t.Run b [] (t.handoff.on b).2 := by
      rw [h b]
      exact .nil b
    exact .handing t.handoff (.nil b) hq hi
  · exact .plain a (.nil b) hq

/-- Under an idle handoff any actions in any order are a run. -/
theorem Run.of_actions {t : BuilderType} (h : t.Idle) (b : Builder) (actions : List Action) :
    t.Run b (t.trace b actions) (t.afterAll b actions) := by
  induction actions generalizing b with
  | nil => exact .nil b
  | cons a rest ih => exact (Run.single h a b).trans (ih _)

end BuilderType

/-- A builder type of the class whose handoff is idle, with the run of the given actions. -/
theorem ClassDescriptor.exists_run_of_yields {c : ClassDescriptor} {check : BuilderType → Bool}
    (h : c.yields byFields check = true) (actions : List Action) :
    ∃ s t, assemble c = .ok s ∧ materialize s byFields = .ok t ∧ t.spec = s ∧ check t = true ∧
      t.Run (.new s) (t.trace (.new s) actions) (t.afterAll (.new s) actions) := by
  obtain ⟨s, t, hs, ht, hc⟩ := exists_of_yields h
  obtain ⟨-, rfl⟩ := (materialize_eq_ok_iff ..).mp ht
  exact ⟨s, _, hs, ht, rfl, hc, .of_actions (fun _ => rfl) ..⟩

end FluentBuilder
