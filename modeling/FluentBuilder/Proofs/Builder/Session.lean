import FluentBuilder.Proofs.Builder.Run

/-! Sessions keep their builders apart: a step under one name does with that builder what it would
do alone, and leaves the builders of all other names as they are. -/

namespace FluentBuilder

/-- What the step does with its builder, if it does something with one that is there. -/
def Step.action? : Step → Option Action
  | .call member arguments => some (.call member arguments)
  | .read member => some (.read member)
  | .poke key v => some (.poke key v)
  | .create | .construct | .qualify _ => none

/-- What a step under the name `on` does with the builder of a name. -/
def Step.actionOn? (step : Step) (name on : String) : Option Action :=
  if on = name then step.action? else none

namespace Session

variable {t : BuilderType} {session : Session} {name on : String} {step : Step} {b : Builder}

theorem find?_put_self (session : Session) (name : String) (b : Builder) :
    (session.put name b).find? name = some b := List.lookup_cons_self

theorem find?_put_of_ne (session : Session) (b : Builder) (hn : name ≠ on) :
    (session.put on b).find? name = session.find? name := by
  have hb : (name == on) = false := by simpa using hn
  unfold put find?
  rw [List.lookup_cons, hb]
  exact lookup_filter_of_ne hn _

theorem act_of_find? (hb : session.find? on = some b) (t : BuilderType) (a : Action) :
    session.act t on a = ((t.event a b).outcome, session.put on (t.after a b)) := by
  unfold act
  rw [hb]
  rfl

theorem perform_of_action (hb : session.find? on = some b) {a : Action}
    (ha : step.action? = some a) (t : BuilderType) :
    session.perform t on step = ((t.event a b).outcome, session.put on (t.after a b)) := by
  rw [← act_of_find? hb]
  cases step <;> cases ha <;> rfl

theorem find?_perform_of_none (t : BuilderType) (session : Session)
    (ha : step.actionOn? name on = none) (hc : (name, Step.create) ≠ (on, step)) :
    (session.perform t on step).2.find? name = session.find? name := by
  -- Under the same name only a call, a read or a write could change the builder.
  by_cases hn : on = name
  · subst hn
    have hsame : (session.perform t on step).2 = session := by
      rw [Step.actionOn?, if_pos rfl] at ha
      cases step with
      | create => exact absurd rfl hc
      | construct => rfl
      | qualify member => rfl
      | call member arguments => cases ha
      | read member => cases ha
      | poke key v => cases ha
    rw [hsame]
  · have hact (a : Action) : (session.act t on a).2.find? name = session.find? name := by
      cases hb : session.find? on with
      | none => rw [act, hb]
      | some b =>
        rw [act_of_find? hb]
        exact find?_put_of_ne session _ (Ne.symm hn)
    cases step with
    | create => exact find?_put_of_ne session _ (Ne.symm hn)
    | construct => rfl
    | qualify member => rfl
    | call member arguments => exact hact _
    | read member => exact hact _
    | poke key v => exact hact _

def afterAll (t : BuilderType) (session : Session) : List (String × Step) → Session
  | [] => session
  | (on, step) :: rest => (session.perform t on step).2.afterAll t rest

/-- What comes of the steps that act on the builder of a name. -/
def eventsOn (t : BuilderType) (name : String) (session : Session) :
    List (String × Step) → List Event
  | [] => []
  | (on, step) :: rest =>
    ((step.actionOn? name on).map fun a => ⟨a, (session.perform t on step).1⟩).toList ++
      eventsOn t name (session.perform t on step).2 rest

/-- As long as it is not made anew, a builder goes through the run of its own actions. -/
theorem run (hb : session.find? name = some b) (t : BuilderType) (steps : List (String × Step))
    (hc : (name, .create) ∉ steps) :
    session.eventsOn t name steps = t.trace b (steps.filterMap fun x => x.2.actionOn? name x.1) ∧
      (session.afterAll t steps).find? name =
        some (t.afterAll b (steps.filterMap fun x => x.2.actionOn? name x.1)) := by
  -- The builder changes on the way: what lies under the name is known step by step.
  induction steps generalizing session b with
  | nil => exact ⟨rfl, hb⟩
  | cons x rest ih =>
    obtain ⟨on, step⟩ := x
    rw [List.mem_cons, not_or] at hc
    obtain ⟨hne, hrest⟩ := hc
    cases ha : step.actionOn? name on with
    | none =>
      have hkept := (find?_perform_of_none t session ha hne).trans hb
      simpa [eventsOn, afterAll, ha] using ih hkept hrest
    | some a =>
      obtain ⟨rfl, haction⟩ := Option.ite_none_right_eq_some.mp ha
      have hperform := perform_of_action hb haction t
      have hafter := find?_put_self session on (t.after a b)
      obtain ⟨hevents, hlast⟩ := ih hafter hrest
      constructor
      · simp only [eventsOn, ha, hperform, hevents, List.filterMap_cons, BuilderType.trace,
          Option.map_some, Option.toList_some, List.singleton_append]
        rfl
      · simpa only [afterAll, hperform, ha, List.filterMap_cons, BuilderType.afterAll] using hlast

end Session

end FluentBuilder
