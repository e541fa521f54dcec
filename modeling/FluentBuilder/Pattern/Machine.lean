import FluentBuilder.Pattern.Program

/-!
A machine works through a program from a place in the text. Where there is more than one way to go
on it notes what is pending: what to do once the way taken has failed or succeeded. The reading head
stands where the last attempt set it. What is repeated in the best way only goes on from the head.
-/

namespace FluentBuilder.Pattern

/-- The text to be matched, as code points. -/
abbrev Subject := Array Nat

def isWordAt (ascii : Bool) (s : Subject) (position : Nat) : Bool :=
  match s[position]? with
  | some n => Category.word.holds ascii n
  | none => false

/-- The condition holds at a position. In an empty text there is no boundary and no lack of one. -/
def Anchor.holds (f : Flags) (s : Subject) (position : Nat) : Anchor → Bool
  | .textStart => position == 0
  | .textEnd => position == s.size
  | .lineStart => position == 0 || (f.multiline && s[position - 1]? == some 10)
  | .lineEnd =>
    position == s.size || (s[position]? == some 10 && (f.multiline || position + 1 == s.size))
  | .wordBoundary => s.size != 0 && wordBefore != isWordAt f.ascii s position
  | .noWordBoundary => s.size != 0 && wordBefore == isWordAt f.ascii s position
where
  wordBefore : Bool := decide (0 < position) && isWordAt f.ascii s (position - 1)

@[inline] def Item.holdsAt (item : Item) (s : Subject) (position : Nat) : Bool :=
  match s[position]? with
  | some n => item.holds n
  | none => false

def Item.count (item : Item) (s : Subject) (position : Nat) : Nat → Nat
  | 0 => 0
  | most + 1 => if item.holdsAt s position then item.count s (position + 1) most + 1 else 0

/-- Where the groups begin and end: group `g` at the places `2 * g` and `2 * g + 1`. -/
abbrev Marks := Array (Option Nat)

/-- Sets a mark. Those between the last one and a new one are not set. -/
@[inline] def setMark (marks : Marks) (index position : Nat) : Marks :=
  if index < marks.size then marks.setIfInBounds index (some position)
  else (marks ++ Array.replicate (index - marks.size) none).push (some position)

/-- Where a group begins and ends, if it has been closed no earlier than it was opened. -/
def groupSpan? (marks : Marks) (group : Nat) : Option (Nat × Nat) :=
  match (marks[2 * group]?).join, (marks[2 * group + 1]?).join with
  | some first, some last => if first ≤ last then some (first, last) else none
  | _, _ => none

/-- A repetition in progress: how many rounds have begun, and where the last one that was not
demanded began. -/
structure Loop where
  least : Nat
  most : Option Nat
  body : Program
  begun : Nat := 0
  last : Option Nat := none

/-- What to do after an attempt. -/
inductive Pending
  | alternatives (rest : List Program) (position : Nat) (marks : Marks)
  | fewerItems (least count position : Nat) (marks : Marks) (next : Program)
  | moreItems (item : Item) (more : Option Nat) (position : Nat) (marks : Marks) (next : Program)
  | loop (outer : List Loop)
  | round (position : Nat) (loops : List Loop)
  | freeRound (position : Nat) (marks : Marks) (loops : List Loop) (next : Program)
  | sequel (position : Nat) (loops : List Loop)
  | lazySequel (position : Nat) (marks : Marks) (loops : List Loop)
  | dueRound (whole : Bool) (position due : Nat) (more : Option Nat) (body next : Program)
  | bestRound (whole : Bool) (more : Option Nat) (start : Nat) (marks : Marks)
      (body next : Program)
  | atomic (whole : Bool) (position : Nat) (next : Program)
  | look (whole negated : Bool) (position : Nat) (marks : Marks) (next : Program)

/-- The machine. `whole` says that a success must lie at the end of the text. -/
structure Machine where
  head : Nat := 0
  marks : Marks := #[]
  loops : List Loop := []
  whole : Bool := true
  pending : List Pending := []

/-- What the machine does next: it goes on with a program at a position, or an attempt is over. -/
inductive Task
  | run (program : Program) (position : Nat)
  | over (success : Bool)

namespace Machine

/-- Starts an attempt and notes what is pending. -/
@[inline] def attempt (m : Machine) (decision : Pending) (program : Program) (position : Nat) : Task × Machine :=
  (.run program position, { m with head := position, pending := decision :: m.pending })

@[inline] def fail (m : Machine) : Task × Machine := (.over false, m)

/-- The attempt has failed, and the head goes back. -/
@[inline] def failAt (m : Machine) (position : Nat) : Task × Machine :=
  (.over false, { m with head := position })

/-- The marks after an attempt that began with the given ones has failed. Outside of all repetitions
marks that were set before keep what the attempt has made of them. -/
@[inline] def marksAfter (m : Machine) (loops : List Loop) (marks : Marks) : Marks :=
  if loops.isEmpty then
    (if m.marks.size ≤ marks.size then m.marks else m.marks.take marks.size)
  else marks

@[inline] def takeBack (m : Machine) (marks : Marks) : Machine :=
  { m with marks := m.marksAfter m.loops marks }

/-- An alternative that begins with a plain item is left out where the item is not there. -/
@[inline] def isOpen (s : Subject) (position : Nat) : Program → Bool
  | .item item _ => !item.isPlain || item.holdsAt s position
  | _ => true

@[inline] def tryAlternatives (s : Subject) (alternatives : List Program) (position : Nat) (marks : Marks)
    (m : Machine) : Task × Machine :=
  match alternatives.dropWhile (!isOpen s position ·) with
  | [] => m.fail
  | alternative :: rest => m.attempt (.alternatives rest position marks) alternative position

/-- Goes on behind so many items or fewer, but not behind less than `least`. If a certain character
must follow, counts before another one are left out. -/
def tryItems (s : Subject) (least : Nat) (marks : Marks) (next : Program) (m : Machine) :
    (count position : Nat) → Task × Machine
  | 0, position =>
    if 0 < least || !follows position then m.fail
    else m.attempt (.fewerItems least 0 position marks next) next position
  | count + 1, position =>
    if count + 1 < least then m.fail
    else if follows position then
      m.attempt (.fewerItems least (count + 1) position marks next) next position
    else tryItems s least marks next m count (position - 1)
where
  follows (position : Nat) : Bool :=
    match next with
    | .item (.literal false .exact code) _ => s[position]? == some code
    | _ => true

@[inline] def afterCount (m : Machine) (item : Item) (position count : Nat) : Machine :=
  { m with head := if item.movesHead then position + count else position }

@[inline] def startItems (s : Subject) (item : Item) (least : Nat) (most : Option Nat) (greed : Greed)
    (next : Program) (position : Nat) (m : Machine) : Task × Machine :=
  let room := s.size - position
  if room < least then m.fail
  else
    let limit := if greed = .lazy then least else min room (most.getD room)
    let count := item.count s position limit
    let m := m.afterCount item position count
    if count < least then m.fail
    else
      match greed with
      | .greedy => tryItems s least m.marks next m count (position + count)
      | .lazy =>
        m.attempt (.moreItems item (most.map (· - count)) (position + count) m.marks next) next
          (position + count)
      | .possessive => (.run next (position + count), m)

/-- Begins a round of a loop with the given loops around it. -/
@[inline] def startRound (decision : Pending) (loop : Loop) (outer : List Loop) (position : Nat) (m : Machine) :
    Task × Machine :=
  { m with loops := { loop with begun := loop.begun + 1 } :: outer }.attempt decision loop.body
    position

@[inline] def leaveLoop (next : Program) (position : Nat) (m : Machine) : Task × Machine :=
  { m with loops := m.loops.tail }.attempt (.sequel position m.loops) next position

/-- Decides at the end of a round, or at the start, whether to begin another one. -/
@[inline] def endRound (isLazy : Bool) (next : Program) (position : Nat) (m : Machine) : Task × Machine :=
  match m.loops with
  | [] => m.fail
  | loop :: outer =>
    if loop.begun < loop.least then
      startRound (.round position m.loops) loop outer position m
    else if isLazy then
      { m with loops := outer }.attempt (.lazySequel position m.marks m.loops) next position
    else if loop.most.all (loop.begun < ·) ∧ loop.last ≠ some position then
      startRound (.freeRound position m.marks m.loops next) { loop with last := some position }
        outer position m
    else leaveLoop next position m

/-- Begins another round of what is repeated in the best way only, or goes on from the head. A round
that ended where it began is the last. -/
@[inline] def nextBest (whole : Bool) (more : Option Nat) (last : Option Nat) (body next : Program)
    (m : Machine) : Task × Machine :=
  if more = some 0 ∨ last = some m.head then (.run next m.head, { m with whole })
  else
    { m with whole := false }.attempt (.bestRound whole more m.head m.marks body next) body m.head

/-- Begins one of the rounds that are due, or goes on to those that are not. -/
@[inline] def nextDue (whole : Bool) (position due : Nat) (more : Option Nat) (body next : Program)
    (m : Machine) : Task × Machine :=
  match due with
  | 0 => nextBest whole more none body next m
  | due + 1 =>
    { m with whole := false }.attempt (.dueRound whole position due more body next) body m.head

/-- The text of a group stands at a position, up to case. -/
def repeats (s : Subject) (rule : CaseRule) (first last position : Nat) : Bool :=
  decide (position + (last - first) ≤ s.size) &&
    (List.range (last - first)).all fun i =>
      (s[first + i]?).map rule.lower == (s[position + i]?).map rule.lower

@[inline] def run (s : Subject) (m : Machine) (position : Nat) : Program → Task × Machine
  | .accept =>
    if m.whole && position != s.size then m.fail
    else (.over true, { m with head := position })
  | .item item next => if item.holdsAt s position then (.run next (position + 1), m) else m.fail
  | .anchor flags kind next =>
    if kind.holds flags s position then (.run next position, m) else m.fail
  | .mark index next => (.run next position, { m with marks := setMark m.marks index position })
  | .onward next => (.run next position, m)
  | .choice alternatives => tryAlternatives s alternatives position m.marks m
  | .itemRounds item least most greed next => startItems s item least most greed next position m
  | .rounds least most body roundEnd =>
    { m with loops := { least, most, body } :: m.loops }.attempt (.loop m.loops) roundEnd position
  | .roundEnd isLazy next => endRound isLazy next position m
  | .bestRounds least most body next =>
    nextDue m.whole position least (most.map (· - least)) body next { m with head := position }
  | .atomic body next =>
    { m with whole := false }.attempt (.atomic m.whole position next) body position
  | .look negated back body next =>
    if position < back then (if negated then (.run next position, m) else m.fail)
    else
      { m with whole := false }.attempt (.look m.whole negated position m.marks next) body
        (position - back)
  | .reference rule group next =>
    match groupSpan? m.marks group with
    | some (first, last) =>
      if repeats s rule first last position then (.run next (position + (last - first)), m)
      else m.fail
    | none => m.fail
  | .condition group yes no =>
    (.run (if (groupSpan? m.marks group).isSome then yes else no) position, m)

/-- Goes on after an attempt that has succeeded, as what is pending says. -/
@[inline] def succeed (m : Machine) : Pending → Task × Machine
  | .loop outer => (.over true, { m with loops := outer })
  | .sequel _ loops | .lazySequel _ _ loops => (.over true, { m with loops })
  | .dueRound whole position due more body next => nextDue whole position due more body next m
  | .bestRound whole more start _ body next =>
    nextBest whole (more.map (· - 1)) (some start) body next m
  | .atomic whole _ next => (.run next m.head, { m with whole })
  | .look whole negated position _ next =>
    let m := { m with whole }
    if negated then m.fail else (.run next position, m)
  | _ => (.over true, m)

/-- Goes on after an attempt that has failed, as what is pending says. -/
@[inline] def giveUp (s : Subject) (m : Machine) : Pending → Task × Machine
  | .alternatives rest position marks => tryAlternatives s rest position marks (m.takeBack marks)
  | .fewerItems least count position marks next =>
    let m := m.takeBack marks
    match count with
    | 0 => m.fail
    | count + 1 => tryItems s least marks next m count (position - 1)
  | .moreItems item more position marks next =>
    let found := item.holdsAt s position
    let m := (m.takeBack marks).afterCount item position (if found then 1 else 0)
    if !found ∨ more = some 0 then m.fail
    else
      m.attempt (.moreItems item (more.map (· - 1)) (position + 1) marks next) next (position + 1)
  | .loop outer => { m with loops := outer }.fail
  | .round position loops | .sequel position loops => { m with loops }.failAt position
  | .freeRound position marks loops next => leaveLoop next position { m with marks, loops }
  | .lazySequel position marks loops =>
    let m := { m with marks := m.marksAfter loops.tail marks, loops }
    match loops with
    | [] => m.failAt position
    | loop :: outer =>
      if loop.most.any (· ≤ loop.begun) ∨ loop.last = some position then m.failAt position
      else
        startRound (.round position loops) { loop with last := some position } outer position m
  | .dueRound whole position .. | .atomic whole position _ => { m with whole }.failAt position
  -- The head stays where the failed round has left it: on `ab` the first round of `(.(?!b))*+` fails
  -- when it has looked at `b`, and the whole of `ab` is taken.
  | .bestRound whole _ _ marks _ next => (.run next m.head, { m with whole, marks })
  | .look whole negated position marks next =>
    if negated then (.run next position, { m with whole }.takeBack marks)
    else { m with whole }.fail

/-- One step: follows an instruction or what is pending. If nothing is, the last attempt was all. -/
@[inline] def step (s : Subject) : Task → Machine → Option (Task × Machine)
  | .run program position, m => some (m.run s position program)
  | .over success, m =>
    match m.pending with
    | [] => none
    | decision :: pending =>
      let m := { m with pending }
      some (if success then m.succeed decision else m.giveUp s decision)

/-- Steps until the end, at most `fuel` times. -/
def steps (s : Subject) : (fuel : Nat) → Task → Machine → Task × Machine
  | 0, task, m => (task, m)
  | fuel + 1, task, m =>
    match m.step s task with
    | none => (task, m)
    | some (task, m) => steps s fuel task m

end Machine

end FluentBuilder.Pattern
