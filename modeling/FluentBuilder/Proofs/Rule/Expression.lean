import FluentBuilder.Proofs.Class.Identifier
import FluentBuilder.Proofs.Number.Digits
import FluentBuilder.Proofs.Rule.Interval
import FluentBuilder.Proofs.Rule.Wording

/-! The expressions of rules as a language of their own: conditions on the value of a field, joined by
`&&`. What an expression says of a value, when it is read and worked out, is what the test of its rule
decides. -/

namespace FluentBuilder

open Number

namespace Expression

/-- What is compared: the value of the field, or its size. -/
inductive Operand
  | value
  | size
  deriving DecidableEq

inductive Sign
  | above
  | atLeast
  | below
  | atMost
  deriving DecidableEq

def Sign.lower (exclusive : Bool) : Sign := if exclusive then .above else .atLeast

def Sign.upper (exclusive : Bool) : Sign := if exclusive then .below else .atMost

/-- A condition on the value of a field: it is there, or it compares with a whole number. -/
inductive Condition
  | present
  | compares (operand : Operand) (sign : Sign) (bound : Int)
  deriving DecidableEq

section Reading

variable (name : String)

def Operand.ofWord? (word : String) : Option Operand :=
  if word = name then some .value
  else if word = "size(" ++ name ++ ")" then some .size
  else none

def Sign.ofWord? : String → Option Sign
  | ">" => some .above
  | ">=" => some .atLeast
  | "<" => some .below
  | "<=" => some .atMost
  | _ => none

/-- The condition that three words stand for. -/
def Condition.ofWords? (operand sign bound : String) : Option Condition :=
  if sign = "!=" then if operand = name ∧ bound = "null" then some .present else none
  else do
    let operand ← Operand.ofWord? name operand
    let sign ← Sign.ofWord? sign
    let bound ← readInt? 10 bound.toList
    return .compares operand sign bound

def ofWords? : List String → Option (List Condition)
  | [operand, sign, bound] => (Condition.ofWords? name operand sign bound).map ([·])
  | operand :: sign :: bound :: "&&" :: rest => do
    return (← Condition.ofWords? name operand sign bound) :: (← ofWords? rest)
  | _ => none

/-- Reads an expression on the field of the name. -/
def read? (text : String) : Option (List Condition) :=
  ofWords? name ((text.toList.splitOn ' ').map String.ofList)

end Reading

noncomputable section Meaning

open scoped Classical

/-- The number that an operand is for a value, if it is one. -/
def Operand.number? (v : Value) : Operand → Option EReal
  | .value => v.toEReal?
  | .size => v.size?.map fun n => ((n : ℝ) : EReal)

def Sign.Compares (x y : EReal) : Sign → Prop
  | .above => y < x
  | .atLeast => y ≤ x
  | .below => x < y
  | .atMost => x ≤ y

/-- Whether a value meets the condition, if that can be asked. -/
def Condition.truth? (v : Value) : Condition → Option Bool
  | .present => some (v ≠ .null)
  | .compares operand sign bound =>
    (operand.number? v).map fun x => sign.Compares x ((bound : ℝ) : EReal)

/-- Whether a value meets all conditions. None is asked behind one that is not met. -/
def truthOfAll? (v : Value) : List Condition → Option Bool
  | [] => some true
  | c :: rest => (c.truth? v).bind fun met => if met then truthOfAll? v rest else some false

/-- Whether an expression on the field of the name holds of a value. -/
def truth? (name text : String) (v : Value) : Option Bool := (read? name text).bind (truthOfAll? v)

end Meaning

section Writing

variable (name : String)

def Operand.word : Operand → String
  | .value => name
  | .size => "size(" ++ name ++ ")"

def Sign.word : Sign → String
  | .above => ">"
  | .atLeast => ">="
  | .below => "<"
  | .atMost => "<="

def Condition.words : Condition → List String
  | .present => [name, "!=", "null"]
  | .compares operand sign bound => [operand.word name, sign.word, intText bound]

def words : List Condition → List String
  | [] => []
  | [c] => c.words name
  | c :: d :: rest => c.words name ++ "&&" :: words (d :: rest)

def write (cs : List Condition) : String := " ".intercalate (words name cs)

variable {name : String}

theorem Operand.ofWord?_word (o : Operand) : Operand.ofWord? name (o.word name) = some o := by
  cases o with
  | value => simp [ofWord?, word]
  | size =>
    have hne : "size(" ++ name ++ ")" ≠ name := by
      intro h
      have hlength := congrArg String.length h
      simp only [String.length_append] at hlength
      have hsize : "size(".length = 5 := rfl
      omega
    simp [ofWord?, word, hne]

theorem Sign.ofWord?_word (s : Sign) : Sign.ofWord? s.word = some s := by
  cases s <;> rfl

variable (name) in
theorem Condition.ofWords?_words (c : Condition) :
    ∃ operand sign bound, c.words name = [operand, sign, bound] ∧
      Condition.ofWords? name operand sign bound = some c := by
  cases c with
  | present => exact ⟨_, _, _, rfl, by simp [ofWords?]⟩
  | compares o s n =>
    have hsign : s.word ≠ "!=" := by cases s <;> decide
    have hbound : readInt? 10 (intText n).toList = some n := by
      rw [intText, String.toList_ofList, readInt?_intDigits]
    refine ⟨_, _, _, rfl, ?_⟩
    unfold ofWords?
    rw [if_neg hsign, Operand.ofWord?_word, Sign.ofWord?_word, hbound]
    rfl

theorem ofWords?_words {cs : List Condition} (hne : cs ≠ []) :
    ofWords? name (words name cs) = some cs := by
  induction cs with
  | nil => exact absurd rfl hne
  | cons c cs ih =>
    obtain ⟨operand, sign, bound, hwords, hread⟩ := c.ofWords?_words name
    cases cs with
    | nil => simp [words, hwords, ofWords?, hread]
    | cons d cs => simp [words, hwords, ofWords?, hread, ih]

theorem notMem_word_of_mem_words (hname : ' ' ∉ name.toList) {cs : List Condition} {word : String}
    (h : word ∈ words name cs) : ' ' ∉ word.toList := by
  have hcondition (c : Condition) {word : String} (h : word ∈ c.words name) :
      ' ' ∉ word.toList := by
    cases c with
    | present =>
      simp only [Condition.words, List.mem_cons, List.not_mem_nil, or_false] at h
      rcases h with rfl | rfl | rfl
      · exact hname
      · decide
      · decide
    | compares o s n =>
      simp only [Condition.words, List.mem_cons, List.not_mem_nil, or_false] at h
      rcases h with rfl | rfl | rfl
      · cases o <;> simp [Operand.word, hname]
      · cases s <;> decide
      · rw [intText, String.toList_ofList]
        exact notMem_intDigits (by decide) (by decide) n
  induction cs with
  | nil => cases h
  | cons c cs ih =>
    cases cs with
    | nil => exact hcondition c h
    | cons d cs =>
      rcases List.mem_append.mp h with h | h
      · exact hcondition c h
      · rcases List.mem_cons.mp h with rfl | h
        · decide
        · exact ih h

theorem read?_write (hname : ' ' ∉ name.toList) {cs : List Condition} (hne : cs ≠ []) :
    read? name (write name cs) = some cs := by
  have hwords : words name cs ≠ [] := by
    intro h
    have hread : ofWords? name (words name cs) = some cs := ofWords?_words hne
    rw [h] at hread
    cases hread
  have hblank : " ".toList = [' '] := rfl
  have hsplit : (write name cs).toList.splitOn ' ' = (words name cs).map String.toList := by
    rw [write, String.toList_intercalate, hblank]
    refine List.splitOn_intercalate ' ' (List.forall_mem_map.mpr fun word hw => ?_) (by simpa)
    exact notMem_word_of_mem_words hname hw
  rw [read?, hsplit, List.map_map]
  simp [Function.comp_def, ofWords?_words hne]

example : read? "x" "x != null && size(x) > -2" =
    some [.present, .compares .size .above (-2)] := by
  decide +kernel

end Writing

section Truth

variable {v : Value}

theorem exists_truthOfAll? {cs : List Condition} (h : ∀ c ∈ cs, ∃ met, c.truth? v = some met) :
    ∃ met, truthOfAll? v cs = some met ∧ (met = true ↔ ∀ c ∈ cs, c.truth? v = some true) := by
  induction cs with
  | nil => exact ⟨true, rfl, by simp⟩
  | cons c cs ih =>
    obtain ⟨first, hfirst⟩ := h c List.mem_cons_self
    obtain ⟨others, hothers, hall⟩ := ih fun d hd => h d (List.mem_cons_of_mem _ hd)
    rw [List.forall_mem_cons, ← hall, truthOfAll?, hfirst, Option.bind_some]
    cases first with
    | false => exact ⟨false, rfl, by simp⟩
    | true => exact ⟨others, hothers, by simp⟩

theorem Sign.compares_lower {x y : EReal} (exclusive : Bool) :
    (Sign.lower exclusive).Compares x y ↔ if exclusive then y < x else y ≤ x := by
  cases exclusive <;> rfl

theorem Sign.compares_upper {x y : EReal} (exclusive : Bool) :
    (Sign.upper exclusive).Compares x y ↔ if exclusive then x < y else x ≤ y := by
  cases exclusive <;> rfl

end Truth

end Expression

open Expression

/-- The condition that a bound of a range stands for, if there is a bound. -/
def boundCondition (sign : Sign) : Value → List Condition
  | .int n => [.compares .value sign n]
  | _ => []

/-- The conditions that a test stands for. That a text matches a pattern is none. -/
def Test.conditions : Test → List Condition
  | .present => [.present]
  | .filled => [.present, .compares .size .above 0]
  | .within b =>
    boundCondition (.lower b.minExclusive) b.min ++ boundCondition (.upper b.maxExclusive) b.max
  | .sizeWithin low high =>
    .compares .size .atLeast low :: high.toList.map fun n => .compares .size .atMost n
  | .matching _ => []

section Spelling

variable {name text : String} {k : Constraint} {test : Test}

theorem write_within {b : RangeBounds} (hb : b.isBounded = true) (hmin : b.min.IsWhole)
    (hmax : b.max.IsWhole) :
    (Test.within b).conditions ≠ [] ∧
      write name (Test.within b).conditions = " && ".intercalate (rangeChecks name b) := by
  have hplain (n : Int) : (Value.int n).plain = intText n := rfl
  have hlower (x : Bool) : (Sign.lower x).word = lowerSign x := by cases x <;> rfl
  have hupper (y : Bool) : (Sign.upper y).word = upperSign y := by cases y <;> rfl
  rw [← String.toList_inj]
  rcases b.forms hb hmin hmax with ⟨low, x, y, rfl⟩ | ⟨high, x, y, rfl⟩ | ⟨low, high, x, y, rfl⟩ <;>
    refine ⟨List.cons_ne_nil _ _, ?_⟩ <;>
    simp [Test.conditions, boundCondition, write, words, Condition.words, Operand.word,
      rangeChecks, hplain, hlower, hupper]

/-- Every expression but that of a pattern is how the conditions of its test are written. -/
theorem Test.Spells.eq_write (h : test.Spells name text) (htests : k.Tests test)
    (hwhole : k.IsWhole) (hpattern : ∀ compiled, test ≠ .matching compiled) :
    test.conditions ≠ [] ∧ write name test.conditions = text := by
  have hnat (n : ℕ) : intText n = natText n := rfl
  cases h with
  | present =>
    refine ⟨List.cons_ne_nil _ _, ?_⟩
    rw [← String.toList_inj]
    simp [conditions, write, words, Condition.words]
  | filled =>
    have hzero : intText 0 = "0" := by decide
    refine ⟨List.cons_ne_nil _ _, ?_⟩
    rw [← String.toList_inj]
    simp [conditions, write, words, Condition.words, Operand.word, Sign.word, hzero]
  | within hb =>
    cases htests
    exact write_within hb hwhole.1 hwhole.2
  | atLeast low =>
    refine ⟨List.cons_ne_nil _ _, ?_⟩
    rw [← String.toList_inj]
    simp [conditions, write, words, Condition.words, Operand.word, Sign.word, hnat]
  | between low high =>
    refine ⟨List.cons_ne_nil _ _, ?_⟩
    rw [← String.toList_inj]
    simp [conditions, write, words, Condition.words, Operand.word, Sign.word, hnat]
  | matching => exact absurd rfl (hpattern _)

/-- So what the expression says of a value is what the conditions say. -/
theorem Test.Spells.truth?_eq (h : test.Spells name text) (htests : k.Tests test)
    (hwhole : k.IsWhole) (hpattern : ∀ compiled, test ≠ .matching compiled)
    (hname : ' ' ∉ name.toList) (v : Value) :
    truth? name text v = truthOfAll? v test.conditions := by
  obtain ⟨hne, rfl⟩ := h.eq_write htests hwhole hpattern
  rw [truth?, read?_write hname hne, Option.bind_some]

end Spelling

/-- The value has the shape that the constraint is about. -/
inductive Constraint.Fits : Constraint → Value → Prop
  | nonNull {v : Value} : v ≠ .null → Fits .nonNull v
  | nonEmpty {v : Value} {n : ℕ} : v.size? = some n → Fits .nonEmpty v
  | size {min max v : Value} {n : ℕ} : v.size? = some n → Fits (.size min max) v
  | range {b : RangeBounds} {v : Value} {x : EReal} : v.toEReal? = some x →
      (∀ e, ¬ v.Overflows e) → Fits (.range b) v

namespace Test

variable {v : Value}

theorem conditions_filled {n : ℕ} (hv : v.size? = some n) :
    truthOfAll? v filled.conditions = some (n != 0) := by
  have hnull : v ≠ .null := by
    rintro rfl
    cases hv
  have hpresent : Condition.present.truth? v = some true := by simp [Condition.truth?, hnull]
  have hsize : (Condition.compares .size .above 0).truth? v = some (n != 0) := by
    simp [Condition.truth?, Operand.number?, hv, Sign.Compares, Nat.pos_iff_ne_zero, bne,
      Bool.beq_eq_decide_eq]
  cases hn : n != 0 <;> simp [conditions, truthOfAll?, hpresent, hsize, hn]

theorem conditions_sizeWithin {n : ℕ} (hv : v.size? = some n) (low : ℕ) (high : Option ℕ) :
    truthOfAll? v (sizeWithin low high).conditions =
      some (decide (low ≤ n) && high.all (n ≤ ·)) := by
  have hlow : (Condition.compares .size .atLeast low).truth? v = some (decide (low ≤ n)) := by
    simp [Condition.truth?, Operand.number?, hv, Sign.Compares]
  have hhigh (u : ℕ) :
      (Condition.compares .size .atMost u).truth? v = some (decide (n ≤ u)) := by
    simp [Condition.truth?, Operand.number?, hv, Sign.Compares]
  cases high with
  | none => by_cases h : low ≤ n <;> simp [conditions, truthOfAll?, hlow, h]
  | some u =>
    by_cases h : low ≤ n <;> by_cases hu : n ≤ u <;>
      simp [conditions, truthOfAll?, hlow, hhigh, h, hu]

theorem holds_sizeWithin {n : ℕ} (hv : v.size? = some n) (low : ℕ) (high : Option ℕ) :
    (sizeWithin low high).holds v = .ok (decide (low ≤ n) && high.all (n ≤ ·)) := by
  cases v with
  | null => cases hv
  | _ =>
    unfold holds
    dsimp only
    rw [hv]

/-- A number can be asked about a bound, and meets it if it lies on the right side. -/
theorem boundCondition_met {x : EReal} (hx : v.toEReal? = some x) (sign : Sign) {bound : Value}
    (hbound : bound.IsWhole) :
    (∀ c ∈ boundCondition sign bound, ∃ met, c.truth? v = some met) ∧
      ((∀ c ∈ boundCondition sign bound, c.truth? v = some true) ↔
        ∀ y, bound.toEReal? = some y → sign.Compares x y) := by
  obtain rfl | ⟨n, rfl⟩ := hbound
  · simp [boundCondition, Value.toEReal?]
  · have hn : (Value.int n).toEReal? = some ((n : ℝ) : EReal) := rfl
    simpa [boundCondition, Condition.truth?, Operand.number?, hx, hn] using em' _

theorem conditions_within {b : RangeBounds} (hmin : b.min.IsWhole) (hmax : b.max.IsWhole)
    {x : EReal} (hx : v.toEReal? = some x) :
    ∃ met, truthOfAll? v (within b).conditions = some met ∧ (met = true ↔ b.Contains x) := by
  obtain ⟨hlow, hreaches⟩ := boundCondition_met hx (.lower b.minExclusive) hmin
  obtain ⟨hhigh, hstays⟩ := boundCondition_met hx (.upper b.maxExclusive) hmax
  obtain ⟨met, hmet, hall⟩ := exists_truthOfAll? (List.forall_mem_append.mpr ⟨hlow, hhigh⟩)
  refine ⟨met, hmet, hall.trans ?_⟩
  rw [List.forall_mem_append, hreaches, hstays]
  simp only [Sign.compares_lower, Sign.compares_upper]
  exact ⟨fun ⟨hlow, hhigh⟩ => ⟨hlow, hhigh⟩, fun ⟨hlow, hhigh⟩ => ⟨hlow, hhigh⟩⟩

end Test

namespace Constraint

variable {k : Constraint} {test : Test} {v : Value}

/-- What the conditions of a test say of a value of the fitting shape is what the test decides. -/
theorem Fits.conditions_agree (h : k.Fits v) (htests : k.Tests test) (hwhole : k.IsWhole)
    (hbounds : ∀ b, k = .range b → b.min.IsBound ∧ b.max.IsBound) :
    ∃ passes, truthOfAll? v test.conditions = some passes ∧ test.holds v = .ok passes := by
  cases h with
  | nonNull hv =>
    cases htests
    refine ⟨true, by simp [Test.conditions, truthOfAll?, Condition.truth?, hv], ?_⟩
    cases v <;> first | exact absurd rfl hv | rfl
  | nonEmpty hn =>
    cases htests
    refine ⟨_, Test.conditions_filled hn, ?_⟩
    rw [Test.holds, hn, Option.getD_some]
  | size hn =>
    cases htests with
    | size low high => exact ⟨_, Test.conditions_sizeWithin hn _ _, Test.holds_sizeWithin hn _ _⟩
  | @range b _ x hx hsmall =>
    cases htests
    obtain ⟨hmin, hmax⟩ := hbounds b rfl
    obtain ⟨met, hmet, hcontains⟩ := Test.conditions_within hwhole.1 hwhole.2 hx
    obtain ⟨passes, hpasses, hkeeps⟩ := Test.exists_holds_within hmin hmax hsmall
    have hnull : v ≠ .null := by
      rintro rfl
      cases hx
    have heq : passes = met := by
      rw [Bool.eq_iff_iff, hkeeps, hcontains]
      simp [hnull, hx]
    exact ⟨met, hmet, heq ▸ hpasses⟩

/-- Null has no size, but it is not asked for one. -/
theorem Tests.conditions_null (h : k.Tests test) (hk : k.demandsPresence = true) :
    truthOfAll? .null test.conditions = some false := by
  cases h with
  | nonNull => simp [Test.conditions, truthOfAll?, Condition.truth?]
  | nonEmpty => simp [Test.conditions, truthOfAll?, Condition.truth?]
  | _ => cases hk

theorem Fits.ne_matching (h : k.Fits v) (htests : k.Tests test) (compiled : Pattern.Compiled) :
    test ≠ .matching compiled := by
  rintro rfl
  cases htests
  cases h

theorem Tests.ne_matching (h : k.Tests test) (hk : k.demandsPresence = true)
    (compiled : Pattern.Compiled) : test ≠ .matching compiled := by
  rintro rfl
  cases h
  cases hk

end Constraint

/-- The expression of a rule and its test agree. Of null a demand for presence is false and the test
fails it, while any other test lets it pass. Of a value that the constraint is about the expression
says what the test decides, if the bounds of a range are whole numbers. -/
theorem expression_agrees {owner : String} {f : FieldDescriptor} {rules : List Rule}
    (h : resolveConstraints owner f = .ok rules) {r : Rule} (hr : r ∈ rules)
    (hname : isName f.name = true) (hwhole : r.constraint.IsWhole) :
    (r.constraint.demandsPresence = true →
        truth? f.name r.expression .null = some false ∧ r.holds .null = .ok false) ∧
      (r.constraint.demandsPresence = false → r.holds .null = .ok true) ∧
      ∀ v, r.constraint.Fits v →
        ∃ passes, truth? f.name r.expression v = some passes ∧ r.holds v = .ok passes := by
  obtain ⟨k, -, hk⟩ := exists_constraint_of_mem h hr
  obtain ⟨henforces, htests⟩ := resolveConstraint_gives hk
  have hspells := resolveConstraint_spells hk
  have hblank : ' ' ∉ f.name.toList :=
    notMem_of_isName hname (by decide) (by decide +kernel) (by decide +kernel)
  have hbounds : ∀ b, k = .range b → b.min.IsBound ∧ b.max.IsBound := by
    rintro b rfl
    exact resolveRange_isBound hk
  rw [henforces.constraint] at hwhole ⊢
  refine ⟨fun hp => ⟨?_, ?_⟩, fun hp => ?_, fun v hv => ?_⟩
  · rw [hspells.truth?_eq htests hwhole (htests.ne_matching hp) hblank]
    exact htests.conditions_null hp
  · rw [henforces.holds_null, hp, Bool.not_true]
  · rw [henforces.holds_null, hp, Bool.not_false]
  · rw [hspells.truth?_eq htests hwhole (hv.ne_matching htests) hblank]
    exact hv.conditions_agree htests hwhole hbounds

/-- Twelve does not lie between one and nine, and neither the expression nor the test says it does. -/
theorem expression_agrees_twelve :
    ∃ rules r, resolveConstraints "P" digitField = .ok rules ∧ r ∈ rules ∧
      truth? "x" r.expression (.int 12) = some false ∧ r.holds (.int 12) = .ok false := by
  obtain ⟨r, hrules, htest⟩ := exists_digitRule
  have hmem : r ∈ [r] := List.mem_cons_self
  obtain ⟨k, hk, hres⟩ := exists_constraint_of_mem hrules hmem
  have hconstraint : r.constraint = .range { min := .int 1, max := .int 9 } := by
    rw [(resolveConstraint_enforces hres).constraint]
    exact List.mem_singleton.mp hk
  have hwhole : r.constraint.IsWhole := by
    rw [hconstraint]
    exact ⟨.inr ⟨1, rfl⟩, .inr ⟨9, rfl⟩⟩
  have hsmall : ¬ Binary64.overflowLimit ≤ 12 := by decide +kernel
  have hfits : r.constraint.Fits (.int 12) := by
    rw [hconstraint]
    refine .range rfl fun e he => ?_
    cases he with
    | int hl => exact hsmall hl
  have hbreaks : r.holds (.int 12) = .ok false := by
    unfold Rule.holds
    rw [htest]
    exact eq_ok_of_toOption (by decide +kernel)
  obtain ⟨-, -, hagree⟩ := expression_agrees hrules hmem (by decide +kernel) hwhole
  obtain ⟨passes, htruth, hholds⟩ := hagree (.int 12) hfits
  obtain rfl := Except.ok.inj (hbreaks.symm.trans hholds)
  exact ⟨[r], r, hrules, hmem, htruth, hbreaks⟩

end FluentBuilder
