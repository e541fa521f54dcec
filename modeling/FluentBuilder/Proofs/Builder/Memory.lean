import FluentBuilder.Proofs.Builder.History
import FluentBuilder.Proofs.Builder.Session

/-! Several builders of one type in a memory. Each builder keeps its values in a dictionary at an
address, and each call of `values` makes another dictionary, which whoever called may change at
will. No builder is touched by what is done with the others. -/

namespace FluentBuilder

/-- The content of the dictionary in which a builder keeps its values. -/
def Builder.entries (b : Builder) : List (Value × Value) :=
  b.values.map fun (name, v) => (.text name, v)

def Builder.ofEntries (entries : List (Value × Value)) (built : Bool) : Builder where
  values := entries.filterMap fun
    | (.text name, v) => some (name, v)
    | _ => none
  built := built

theorem Builder.ofEntries_entries (b : Builder) : ofEntries b.entries b.built = b := by
  have hvalues : b.entries.filterMap (fun
      | (.text name, v) => some (name, v)
      | _ => none) = b.values := by
    rw [entries, List.filterMap_map]
    exact List.filterMap_some
  exact congrArg (Builder.mk · b.built) hvalues

/-- A builder as an object: the address of its dictionary, and whether it has built. -/
structure Handle where
  store : Nat
  built : Bool

/-- The dictionaries by address, the builders in the order of their creation, and the addresses of
the dictionaries that were handed out. -/
structure Memory where
  cells : List (List (Value × Value)) := []
  builders : List Handle := []
  given : List Nat := []

/-- What is done in a memory: a builder is made, something is done with a builder, or a dictionary
that was handed out is changed in some way. -/
inductive Deed
  | create
  | act (builder : Nat) (a : Action)
  | change (given : Nat) (f : List (Value × Value) → List (Value × Value))

def Deed.actionOn? (i : Nat) : Deed → Option Action
  | .act j a => if j = i then some a else none
  | _ => none

namespace Memory

/-- The builder of a number, with its values as they stand in its dictionary. -/
def load? (m : Memory) (i : Nat) : Option Builder :=
  m.builders[i]?.map fun h => .ofEntries (m.cells[h.store]?.getD []) h.built

def save (m : Memory) (i : Nat) (b : Builder) : Memory :=
  match m.builders[i]? with
  | none => m
  | some h =>
    { m with
      cells := m.cells.set h.store b.entries
      builders := m.builders.set i { h with built := b.built } }

/-- One more builder, with a dictionary of its own. -/
def add (m : Memory) (b : Builder) : Memory :=
  { m with
    cells := m.cells ++ [b.entries]
    builders := m.builders ++ [⟨m.cells.length, b.built⟩] }

def handOut (m : Memory) (entries : List (Value × Value)) : Memory :=
  { m with
    cells := m.cells ++ [entries]
    given := m.given ++ [m.cells.length] }

def change (m : Memory) (n : Nat) (f : List (Value × Value) → List (Value × Value)) : Memory :=
  match m.given[n]? with
  | none => m
  | some address => { m with cells := m.cells.modify address f }

/-- A builder made by a call becomes one of the builders, and a dictionary that a call of `values`
gave is handed out. -/
def receive (m : Memory) : Action → Except CallError Shown → Memory
  | .call member _, .ok (.result (.builder b)) => if member = createName then m.add b else m
  | .call member _, .ok (.result (.value (.dict entries))) =>
    if member = valuesName then m.handOut entries else m
  | _, _ => m

/-- Does one thing: what comes of it, if a builder was there to do it, and the memory after it. -/
def perform (t : BuilderType) (m : Memory) : Deed → Option Event × Memory
  | .create => (none, m.add (.new t.spec))
  | .act i a =>
    match m.load? i with
    | none => (none, m)
    | some b =>
      let e := t.event a b
      (some e, (m.save i (t.after a b)).receive a e.outcome)
  | .change n f => (none, m.change n f)

def afterAll (t : BuilderType) (m : Memory) : List Deed → Memory
  | [] => m
  | d :: rest => (m.perform t d).2.afterAll t rest

/-- What comes of the deeds on the builder of a number. -/
def eventsOn (t : BuilderType) (i : Nat) (m : Memory) : List Deed → List Event
  | [] => []
  | d :: rest =>
    ((d.actionOn? i).bind fun _ => (m.perform t d).1).toList ++ eventsOn t i (m.perform t d).2 rest

def addresses (m : Memory) : List Nat := m.builders.map (·.store) ++ m.given

/-- Every dictionary is one builder's or was handed out once. -/
structure Separate (m : Memory) : Prop where
  nodup : m.addresses.Nodup
  lt_length : ∀ a ∈ m.addresses, a < m.cells.length

variable {t : BuilderType} {m m' : Memory} {i j : Nat} {b b' : Builder} {h : Handle}

/-- What a builder is depends on its own dictionary only. -/
theorem load?_congr (hb : m'.builders[i]? = m.builders[i]?)
    (hc : ∀ h, m.builders[i]? = some h → m'.cells[h.store]? = m.cells[h.store]?) :
    m'.load? i = m.load? i := by
  unfold load?
  rw [hb]
  cases hi : m.builders[i]? with
  | none => rfl
  | some h => rw [Option.map_some, Option.map_some, hc h hi]

theorem exists_handle (hb : m.load? i = some b) : ∃ h, m.builders[i]? = some h := by
  obtain ⟨h, hi, -⟩ := Option.map_eq_some_iff.mp hb
  exact ⟨h, hi⟩

theorem store_mem (hi : m.builders[i]? = some h) : h.store ∈ m.addresses := by
  apply List.mem_append_left
  exact List.mem_map_of_mem (List.mem_of_getElem? hi)

theorem builders_change (m : Memory) (n : Nat) (f) :
    (m.change n f).builders = m.builders := by
  unfold change
  cases m.given[n]? <;> rfl

theorem length_builders_save (m : Memory) (i : Nat) (b : Builder) :
    (m.save i b).builders.length = m.builders.length := by
  unfold save
  cases m.builders[i]? <;> simp

theorem perform_act_of_none (t : BuilderType) {a : Action} (hb : m.load? i = none) :
    m.perform t (.act i a) = (none, m) := by
  simp only [perform, hb]

theorem perform_act_of_some (t : BuilderType) {a : Action} (hb : m.load? i = some b) :
    m.perform t (.act i a) =
      (some (t.event a b), (m.save i (t.after a b)).receive a (t.event a b).outcome) := by
  simp only [perform, hb]

theorem load?_add_self (m : Memory) (b : Builder) :
    (m.add b).load? m.builders.length = some b := by
  simp [load?, add, Builder.ofEntries_entries]

theorem receive_of_length {a : Action} {outcome : Except CallError Shown}
    (hl : (m.receive a outcome).builders.length = m.builders.length + 1) :
    ∃ arguments b, a = .call createName arguments ∧ outcome = .ok (.result (.builder b)) ∧
      m.receive a outcome = m.add b := by
  unfold receive at hl ⊢
  split at hl
  · rename_i member arguments b
    by_cases hn : member = createName
    · rw [if_pos hn]
      exact ⟨arguments, b, by rw [hn], rfl, rfl⟩
    · rw [if_neg hn] at hl
      omega
  · split_ifs at hl
    · simp [handOut] at hl
    · omega
  · omega

namespace Separate

theorem empty : Separate {} := ⟨.nil, fun _ ha => absurd ha List.not_mem_nil⟩

theorem fresh (hm : m.Separate) : m.cells.length ∉ m.addresses := by
  intro hmem
  exact Nat.lt_irrefl _ (hm.lt_length _ hmem)

theorem store_ne (hm : m.Separate) {h k : Handle} (hi : m.builders[i]? = some h)
    (hj : m.builders[j]? = some k) (hij : i ≠ j) : h.store ≠ k.store := by
  intro he
  have hlt : i < (m.builders.map (·.store)).length := by
    rw [List.length_map]
    exact (List.getElem?_eq_some_iff.mp hi).1
  have hsame : (m.builders.map (·.store))[i]? = (m.builders.map (·.store))[j]? := by
    rw [List.getElem?_map, List.getElem?_map, hi, hj, Option.map_some, Option.map_some, he]
  exact hij ((List.getElem?_inj hlt (List.Nodup.of_append_left hm.nodup)).mp hsame)

theorem store_ne_given (hm : m.Separate) {n address : Nat} (hi : m.builders[i]? = some h)
    (hn : m.given[n]? = some address) : h.store ≠ address := by
  have hdisjoint := List.disjoint_of_nodup_append hm.nodup
  intro he
  apply hdisjoint (List.mem_map_of_mem (List.mem_of_getElem? hi))
  rw [he]
  exact List.mem_of_getElem? hn

theorem getElem?_append (hm : m.Separate) (hi : m.builders[i]? = some h)
    (more : List (List (Value × Value))) : (m.cells ++ more)[h.store]? = m.cells[h.store]? :=
  List.getElem?_append_left (hm.lt_length _ (store_mem hi))

theorem load?_save_self (hm : m.Separate) (hi : m.builders[i]? = some h) (b : Builder) :
    (m.save i b).load? i = some b := by
  have hstore := hm.lt_length _ (store_mem hi)
  have hlt := (List.getElem?_eq_some_iff.mp hi).1
  unfold save
  rw [hi]
  simp only [load?, List.getElem?_set_self hstore, List.getElem?_set_self hlt, Option.map_some,
    Option.getD_some, Builder.ofEntries_entries]

theorem load?_save_of_ne (hm : m.Separate) (hij : i ≠ j) (b : Builder) :
    (m.save i b).load? j = m.load? j := by
  unfold save
  cases hi : m.builders[i]? with
  | none => rfl
  | some h =>
    apply load?_congr
    · exact List.getElem?_set_ne hij
    · intro k hj
      exact List.getElem?_set_ne (hm.store_ne hi hj hij)

theorem load?_add_of_some (hm : m.Separate) (hb : m.load? i = some b) (b' : Builder) :
    (m.add b').load? i = some b := by
  obtain ⟨h, hi⟩ := exists_handle hb
  rw [← hb]
  apply load?_congr
  · exact List.getElem?_append_left (List.getElem?_eq_some_iff.mp hi).1
  · intro k hk
    exact hm.getElem?_append hk _

theorem load?_handOut (hm : m.Separate) (entries : List (Value × Value)) (i : Nat) :
    (m.handOut entries).load? i = m.load? i :=
  load?_congr rfl fun _ hk => hm.getElem?_append hk _

theorem load?_change (hm : m.Separate) (n : Nat) (f) (i : Nat) :
    (m.change n f).load? i = m.load? i := by
  unfold change
  cases hn : m.given[n]? with
  | none => rfl
  | some address =>
    apply load?_congr
    · rfl
    · intro k hk
      exact List.getElem?_modify_ne f m.cells (hm.store_ne_given hk hn).symm

theorem save (hm : m.Separate) (i : Nat) (b : Builder) : (m.save i b).Separate := by
  unfold Memory.save
  cases hi : m.builders[i]? with
  | none => exact hm
  | some h =>
    -- Of the handle only the flag is new, so that all addresses are as they were.
    obtain ⟨hlt, hget⟩ := List.getElem?_eq_some_iff.mp hi
    have hlt : i < (m.builders.map (·.store)).length := by simpa using hlt
    have hstore : h.store = (m.builders.map (·.store))[i] := by
      rw [List.getElem_map, hget]
    have hstores : (m.builders.set i { h with built := b.built }).map (·.store) =
        m.builders.map (·.store) :=
      calc (m.builders.set i { h with built := b.built }).map (·.store)
        _ = (m.builders.map (·.store)).set i h.store := List.map_set
        _ = m.builders.map (·.store) := by rw [hstore, List.set_getElem_self]
    constructor
    · simpa only [addresses, hstores] using hm.nodup
    · simpa only [addresses, hstores, List.length_set] using hm.lt_length

theorem grow (hm : m.Separate) (hp : m'.addresses.Perm (m.cells.length :: m.addresses))
    (hl : m'.cells.length = m.cells.length + 1) : m'.Separate := by
  constructor
  · rw [hp.nodup_iff, List.nodup_cons]
    exact ⟨hm.fresh, hm.nodup⟩
  · intro a ha
    obtain rfl | hold := List.mem_cons.mp (hp.mem_iff.mp ha)
    · omega
    · have hlt := hm.lt_length a hold
      omega

theorem add (hm : m.Separate) (b : Builder) : (m.add b).Separate := by
  apply hm.grow
  · simp [addresses, Memory.add]
  · simp [Memory.add]

theorem handOut (hm : m.Separate) (entries : List (Value × Value)) :
    (m.handOut entries).Separate := by
  have haddresses : (m.handOut entries).addresses = m.addresses ++ [m.cells.length] := by
    simp [addresses, Memory.handOut]
  apply hm.grow
  · rw [haddresses]
    exact List.perm_append_singleton _ _
  · simp [Memory.handOut]

theorem change (hm : m.Separate) (n : Nat) (f) : (m.change n f).Separate := by
  unfold Memory.change
  cases m.given[n]? with
  | none => exact hm
  | some address => exact ⟨hm.nodup, by simpa [addresses] using hm.lt_length⟩

theorem receive (hm : m.Separate) (a : Action) (outcome : Except CallError Shown) :
    (m.receive a outcome).Separate := by
  unfold Memory.receive
  split
  · split_ifs
    · exact hm.add _
    · exact hm
  · split_ifs
    · exact hm.handOut _
    · exact hm
  · exact hm

theorem load?_receive (hm : m.Separate) (a : Action) (outcome : Except CallError Shown)
    (hb : m.load? i = some b) : (m.receive a outcome).load? i = some b := by
  unfold Memory.receive
  split
  · split_ifs
    · exact hm.load?_add_of_some hb _
    · exact hb
  · split_ifs
    · rw [hm.load?_handOut, hb]
    · exact hb
  · exact hb

theorem perform (hm : m.Separate) (t : BuilderType) (d : Deed) : (m.perform t d).2.Separate := by
  cases d with
  | create => exact hm.add _
  | change n f => exact hm.change n f
  | act i a =>
    cases hb : m.load? i with
    | none =>
      rw [perform_act_of_none t hb]
      exact hm
    | some b =>
      rw [perform_act_of_some t hb]
      exact (hm.save i _).receive a _

theorem afterAll (hm : m.Separate) (t : BuilderType) (deeds : List Deed) :
    (m.afterAll t deeds).Separate := by
  induction deeds generalizing m with
  | nil => exact hm
  | cons d rest ih => exact ih (hm.perform t d)

theorem perform_act (hm : m.Separate) (hb : m.load? i = some b) (t : BuilderType) (a : Action) :
    (m.perform t (.act i a)).1 = some (t.event a b) ∧
      (m.perform t (.act i a)).2.load? i = some (t.after a b) := by
  obtain ⟨h, hi⟩ := exists_handle hb
  rw [perform_act_of_some t hb]
  exact ⟨rfl, (hm.save i _).load?_receive a _ (hm.load?_save_self hi _)⟩

/-- What is done with others leaves a builder as it is. -/
theorem load?_perform_of_ne (hm : m.Separate) (hb : m.load? i = some b) (t : BuilderType) {d : Deed}
    (hd : d.actionOn? i = none) : (m.perform t d).2.load? i = some b := by
  cases d with
  | create => exact hm.load?_add_of_some hb _
  | change n f => exact (hm.load?_change n f i).trans hb
  | act j a =>
    have hji : j ≠ i := by
      intro he
      simp [Deed.actionOn?, he] at hd
    cases hb' : m.load? j with
    | none =>
      rw [perform_act_of_none t hb']
      exact hb
    | some b' =>
      rw [perform_act_of_some t hb']
      exact (hm.save j _).load?_receive a _ ((hm.load?_save_of_ne hji _).trans hb)

/-- Whatever else is done in between, a builder goes through the run of its own actions. -/
theorem run (hm : m.Separate) (hb : m.load? i = some b) (t : BuilderType) (deeds : List Deed) :
    m.eventsOn t i deeds = t.trace b (deeds.filterMap (·.actionOn? i)) ∧
      (m.afterAll t deeds).load? i = some (t.afterAll b (deeds.filterMap (·.actionOn? i))) := by
  -- Memory and builder change on the way; that the addresses stay apart carries the induction.
  induction deeds generalizing m b with
  | nil => exact ⟨rfl, hb⟩
  | cons d rest ih =>
    cases hd : d.actionOn? i with
    | none =>
      have hrest := ih (hm.perform t d) (hm.load?_perform_of_ne hb t hd)
      simpa [eventsOn, Memory.afterAll, hd] using hrest
    | some a =>
      have hact : d = .act i a := by
        cases d with
        | act j a' =>
          simp only [Deed.actionOn?, Option.ite_none_right_eq_some, Option.some.injEq] at hd
          rw [hd.1, hd.2]
        | _ => cases hd
      subst hact
      obtain ⟨hevent, hafter⟩ := hm.perform_act hb t a
      obtain ⟨hevents, hlast⟩ := ih (hm.perform t _) hafter
      constructor
      · simp only [eventsOn, hd, hevent, hevents, List.filterMap_cons, BuilderType.trace,
          Option.bind_some, Option.toList_some, List.singleton_append]
      · simpa only [Memory.afterAll, hd, List.filterMap_cons, BuilderType.afterAll] using hlast

end Separate

end Memory

variable {c : ClassDescriptor} {s : BuilderSpec} {handoff : Work Result} {t : BuilderType}

theorem eq_new_of_create {fields : List ResolvedField} (ht : t.spec = specOf c fields)
    {b b' : Builder} {arguments : List Value}
    (he : (t.event (.call createName arguments) b).outcome = .ok (.result (.builder b'))) :
    b' = .new t.spec := by
  have hattr : (specOf c fields).attribute? b createName = some .create :=
    Resolution.attribute?_create b
  simp only [BuilderType.event, BuilderType.act_call_on,
    t.call_on_of_some b (ht ▸ hattr) arguments] at he
  cases arguments with
  | nil =>
    cases he
    rfl
  | cons v rest => cases he

theorem Memory.load?_perform_of_length (hs : assemble c = .ok s)
    (ht : materialize s handoff = .ok t) {m : Memory} {d : Deed}
    (hd : (m.perform t d).2.builders.length = m.builders.length + 1) :
    (m.perform t d).2.load? m.builders.length = some (.new s) := by
  obtain ⟨fields, -, rfl⟩ := Resolution.of_assemble hs
  obtain ⟨-, rfl⟩ := (materialize_eq_ok_iff ..).mp ht
  -- A memory gains a builder when one is made, be it through another one; no other deed adds any.
  cases d with
  | create => exact load?_add_self m _
  | change n f =>
    have hsame := congrArg List.length (builders_change m n f)
    simp only [perform] at hd
    omega
  | act i a =>
    cases hb : m.load? i with
    | none =>
      rw [perform_act_of_none _ hb] at hd
      simp at hd
    | some b =>
      rw [perform_act_of_some _ hb] at hd ⊢
      rw [← length_builders_save m i (BuilderType.after ⟨specOf c fields, handoff⟩ a b)] at hd ⊢
      obtain ⟨arguments, b', rfl, he, hadd⟩ := receive_of_length hd
      rw [hadd, load?_add_self, eq_new_of_create rfl he]

theorem Memory.afterAll_append (t : BuilderType) (m : Memory) (deeds more : List Deed) :
    m.afterAll t (deeds ++ more) = (m.afterAll t deeds).afterAll t more := by
  induction deeds generalizing m with
  | nil => rfl
  | cons d rest ih => exact ih _

/-- Once a builder is made, by the type or through another builder, all that comes of what is done
with it, and what it is at any time, are as if it were alone. The same holds of the builders of a
session, each under its name. -/
theorem eventsOn_eq_trace (hs : assemble c = .ok s) (ht : materialize s handoff = .ok t) :
    (∀ (before : List Deed) (d : Deed) (m : Memory) (i : Nat),
      (Memory.afterAll t {} before).builders.length = i →
      Memory.afterAll t {} (before ++ [d]) = m → m.builders.length = i + 1 →
      ∀ deeds, m.eventsOn t i deeds = t.trace (.new s) (deeds.filterMap (·.actionOn? i)) ∧
        (m.afterAll t deeds).load? i =
          some (t.afterAll (.new s) (deeds.filterMap (·.actionOn? i)))) ∧
      ∀ (before after : Session) (name : String),
        before.perform t name .create = (.ok .created, after) →
        ∀ steps, (name, .create) ∉ steps →
          after.eventsOn t name steps =
              t.trace (.new s) (steps.filterMap fun x => x.2.actionOn? name x.1) ∧
            (after.afterAll t steps).find? name =
              some (t.afterAll (.new s) (steps.filterMap fun x => x.2.actionOn? name x.1)) := by
  constructor
  · intro before d m i hi hm hd deeds
    have hseparate : m.Separate := by
      rw [← hm]
      exact Memory.Separate.empty.afterAll t _
    have hnew : m.load? i = some (.new s) := by
      rw [Memory.afterAll_append] at hm
      subst hi hm
      exact Memory.load?_perform_of_length hs ht hd
    exact hseparate.run hnew t deeds
  · intro before after name hmade steps hsteps
    obtain ⟨-, rfl⟩ := (materialize_eq_ok_iff ..).mp ht
    cases hmade
    exact Session.run (Session.find?_put_self _ _ _) _ steps hsteps

/-- The first builder is filled, makes a second one, and builds. The second one hands out its
values, which are then wiped, refuses a weight, and builds in turn. In a session, a builder takes no
weight from another one. -/
theorem eventsOn_eq_trace_parcel :
    ∃ s t m, assemble parcel = .ok s ∧ materialize s byFields = .ok t ∧
      (Memory.afterAll t {} [.create, .act 0 (.call "withWeight" [.int 3])]).builders.length = 1 ∧
      Memory.afterAll t {} ([.create, .act 0 (.call "withWeight" [.int 3])] ++
        [.act 0 (.call "create" [])]) = m ∧
      m.builders.length = 2 ∧
      (∃ b, (m.afterAll t [.act 1 (.call "withWeight" [.int 4]), .act 1 (.call "values" []),
          .act 0 (.call "build" []), .change 0 (fun _ => []), .act 1 (.call "withWeight" [.int 12]),
          .act 0 (.call "withWeight" [.int 5]), .act 1 (.call "build" [])]).load? 1 = some b ∧
        b.get "weight" = .int 4 ∧ b.built = true) ∧
      ∃ session b, Session.perform t {} "first" .create = (.ok .created, session) ∧
        (session.afterAll t [("second", .create), ("first", .call "withWeight" [.int 4]),
          ("second", .call "withWeight" [.int 5])]).find? "first" = some b ∧
        b.get "weight" = .int 4 := by
  have hy : parcel.yields byFields (fun t =>
      (Memory.afterAll t {} [.create, .act 0 (.call "withWeight" [.int 3])]).builders.length = 1 ∧
      (Memory.afterAll t {} ([.create, .act 0 (.call "withWeight" [.int 3])] ++
        [.act 0 (.call "create" [])])).builders.length = 2 ∧
      (t.afterAll (.new t.spec) [.call "withWeight" [.int 4], .call "values" [],
        .call "withWeight" [.int 12], .call "build" []]).get "weight" = .int 4 ∧
      (t.afterAll (.new t.spec) [.call "withWeight" [.int 4], .call "values" [],
        .call "withWeight" [.int 12], .call "build" []]).built = true ∧
      (t.afterAll (.new t.spec) [.call "withWeight" [.int 4]]).get "weight" = .int 4) = true := by
    decide +kernel
  obtain ⟨_, t, hs, ht, rfl, hc, -⟩ := ClassDescriptor.exists_run_of_yields hy []
  obtain ⟨hone, htwo, hweight, hbuilt, hfirst⟩ := of_decide_eq_true hc
  obtain ⟨hmemory, hsession⟩ := eventsOn_eq_trace hs ht
  refine ⟨t.spec, t, _, hs, ht, hone, rfl, htwo, ?_, ?_⟩
  · exact ⟨_, (hmemory _ _ _ _ hone rfl htwo _).2, hweight, hbuilt⟩
  · exact ⟨_, _, rfl, (hsession _ _ _ rfl _ (by simp)).2, hfirst⟩

end FluentBuilder
