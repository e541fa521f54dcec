import FluentBuilder.Builder.Call

/-!
Several builders of one type under names of their own, and what is done with them step by step. A
step changes no builder but the one of its name.
-/

namespace FluentBuilder

inductive Step
  | create
  | construct
  | call (member : String) (arguments : List Value)
  | read (member : String)
  | poke (key : String) (v : Value)
  | qualify (member : String)

/-- Builders by name. -/
structure Session where
  builders : List (String × Builder) := []

namespace Session

def find? (s : Session) (name : String) : Option Builder := s.builders.lookup name

/-- Puts a builder under a name, in place of one that is there. -/
def put (s : Session) (name : String) (b : Builder) : Session :=
  { builders := (name, b) :: s.builders.filter (·.1 ≠ name) }

/-- Does one thing with the builder of a name, which must be there. -/
def act (t : BuilderType) (s : Session) (on : String) (a : Action) :
    Except CallError Shown × Session :=
  match s.find? on with
  | none => (.error (.noBuilder on), s)
  | some b =>
    let (outcome, after) := (t.act a).on b
    (outcome, s.put on after)

/-- Does one step: what it shows or why it fails, and the builders after it. -/
def perform (t : BuilderType) (s : Session) (on : String) : Step → Except CallError Shown × Session
  | .create => (.ok .created, s.put on (.new t.spec))
  | .construct => (.error .notCreated, s)
  | .call member arguments => s.act t on (.call member arguments)
  | .read member => s.act t on (.read member)
  | .poke key v => s.act t on (.poke key v)
  | .qualify member => ((t.qualifiedName member).map .text, s)

/-- Does one step; of a step that fails only the reason is kept. -/
def step (t : BuilderType) (s : Session) (on : String) (a : Step) :
    Except CallError (Session × Shown) :=
  match s.perform t on a with
  | (.ok shown, after) => .ok (after, shown)
  | (.error e, _) => .error e

end Session

end FluentBuilder
