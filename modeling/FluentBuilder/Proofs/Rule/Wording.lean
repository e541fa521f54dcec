import FluentBuilder.Proofs.Number.Digits
import FluentBuilder.Proofs.Rule.Resolve

/-! What the message of a rule tells of its test. Two tests of the same kind that are worded alike,
for fields of one name, treat every value alike, if the bounds of ranges are whole numbers. -/

namespace FluentBuilder

open Number

def Value.IsWhole (v : Value) : Prop := v = .null ∨ ∃ n, v = .int n

def Constraint.IsWhole : Constraint → Prop
  | .range b => b.min.IsWhole ∧ b.max.IsWhole
  | _ => True

namespace RangeBounds

/-- The bounds are the same. Whether an absent bound is exclusive does not matter. -/
structure Agree (b c : RangeBounds) : Prop where
  min : b.min = c.min
  max : b.max = c.max
  minExclusive : b.min ≠ .null → b.minExclusive = c.minExclusive
  maxExclusive : b.max ≠ .null → b.maxExclusive = c.maxExclusive

theorem Agree.holds_eq {b c : RangeBounds} (h : b.Agree c) :
    (Test.within b).holds = (Test.within c).holds := by
  have hreaches (v : Value) : v.reaches b.min b.minExclusive = v.reaches c.min c.minExclusive := by
    rw [← h.min]
    by_cases hn : b.min = .null
    · simp [hn, Value.reaches]
    · rw [h.minExclusive hn]
  have hstays (v : Value) :
      v.staysWithin b.max b.maxExclusive = v.staysWithin c.max c.maxExclusive := by
    rw [← h.max]
    by_cases hn : b.max = .null
    · simp [hn, Value.staysWithin]
    · rw [h.maxExclusive hn]
  funext v
  cases v <;> simp only [Test.holds, hreaches, hstays]

theorem forms {b : RangeBounds} (hb : b.isBounded = true) (hmin : b.min.IsWhole)
    (hmax : b.max.IsWhole) :
    (∃ low x y, b = ⟨.int low, .null, x, y⟩) ∨ (∃ high x y, b = ⟨.null, .int high, x, y⟩) ∨
      ∃ low high x y, b = ⟨.int low, .int high, x, y⟩ := by
  obtain ⟨min, max, x, y⟩ := b
  have hmin : min = .null ∨ ∃ n, min = .int n := hmin
  have hmax : max = .null ∨ ∃ n, max = .int n := hmax
  rcases hmin with rfl | ⟨low, rfl⟩
  · rcases hmax with rfl | ⟨high, rfl⟩
    · cases hb
    · exact .inr (.inl ⟨high, x, y, rfl⟩)
  · rcases hmax with rfl | ⟨high, rfl⟩
    · exact .inl ⟨low, x, y, rfl⟩
    · exact .inr (.inr ⟨low, high, x, y, rfl⟩)

end RangeBounds

section

variable (name : String) (low high : Int) (x y : Bool)

theorem toList_rangeMessage_of_low :
    (rangeMessage name ⟨.int low, .null, x, y⟩).toList =
      name.toList ++ " must be ".toList ++
        '>' :: ((if x then [] else ['=']) ++ ' ' :: intDigits low) := by
  have hplain : (Value.int low).plain = intText low := rfl
  cases x <;> simp [rangeMessage, lowerSign, hplain, intText]

theorem toList_rangeMessage_of_high :
    (rangeMessage name ⟨.null, .int high, x, y⟩).toList =
      name.toList ++ " must be ".toList ++
        '<' :: ((if y then [] else ['=']) ++ ' ' :: intDigits high) := by
  have hplain : (Value.int high).plain = intText high := rfl
  cases y <;> simp [rangeMessage, upperSign, hplain, intText]

theorem toList_rangeMessage_of_both :
    (rangeMessage name ⟨.int low, .int high, x, y⟩).toList =
      name.toList ++ " must be ".toList ++
        'w' :: ("ithin ".toList ++ (if x then '(' else '[') :: (intDigits low ++
          ',' :: (' ' :: intDigits high ++ [if y then ')' else ']']))) := by
  have hlow : (Value.int low).plain = intText low := rfl
  have hhigh : (Value.int high).plain = intText high := rfl
  cases x <;> cases y <;> simp [rangeMessage, hlow, hhigh, intText]

end

theorem exclusive_eq_of_sign {x y : Bool} {s t : List Char}
    (h : (if x then [] else ['=']) ++ ' ' :: s = (if y then [] else ['=']) ++ ' ' :: t) :
    x = y ∧ s = t := by
  cases x <;> cases y <;> simp_all

theorem eq_of_bracket {x y : Bool} {a b : Char} (hab : a ≠ b)
    (h : (if x then a else b) = if y then a else b) : x = y := by
  cases x <;> cases y <;> simp_all

theorem agree_of_rangeMessage_eq {name : String} {b c : RangeBounds} (hb : b.isBounded = true)
    (hc : c.isBounded = true) (hbmin : b.min.IsWhole) (hbmax : b.max.IsWhole)
    (hcmin : c.min.IsWhole) (hcmax : c.max.IsWhole)
    (h : rangeMessage name b = rangeMessage name c) : b.Agree c := by
  have hlist := congrArg String.toList h
  -- The first character after "must be" tells which bounds there are: equal forms are left.
  rcases b.forms hb hbmin hbmax with ⟨l, x, y, rfl⟩ | ⟨u, x, y, rfl⟩ | ⟨l, u, x, y, rfl⟩ <;>
    rcases c.forms hc hcmin hcmax with ⟨l', x', y', rfl⟩ | ⟨u', x', y', rfl⟩ |
      ⟨l', u', x', y', rfl⟩ <;>
    simp only [toList_rangeMessage_of_low, toList_rangeMessage_of_high,
      toList_rangeMessage_of_both, List.append_cancel_left_eq, List.cons.injEq, Char.reduceEq,
      false_and, true_and] at hlist
  · obtain ⟨rfl, hdigits⟩ := exclusive_eq_of_sign hlist
    obtain rfl := intDigits_injective hdigits
    exact ⟨rfl, rfl, fun _ => rfl, fun hn => absurd rfl hn⟩
  · obtain ⟨rfl, hdigits⟩ := exclusive_eq_of_sign hlist
    obtain rfl := intDigits_injective hdigits
    exact ⟨rfl, rfl, fun hn => absurd rfl hn, fun _ => rfl⟩
  -- No number contains the comma that stands between two of them.
  · obtain ⟨hopening, hrest⟩ := hlist
    have hfree : ',' ∉ ' ' :: intDigits u ++ [if y then ')' else ']'] := by
      have hdigits := notMem_intDigits (c := ',') (by decide) (by decide) u
      cases y <;> simp [hdigits]
    have hstart : ',' ∉ intDigits l := notMem_intDigits (by decide) (by decide) l
    obtain ⟨hlow, -, hend⟩ := (List.append_cons_inj_of_notMem hstart hfree).mp hrest
    obtain ⟨hhigh, hclosing⟩ := List.append_inj' hend rfl
    obtain rfl := intDigits_injective hlow
    obtain rfl := intDigits_injective (List.cons.inj hhigh).2
    obtain rfl := eq_of_bracket (by decide) hopening
    obtain rfl := eq_of_bracket (by decide) (List.cons.inj hclosing).1
    exact ⟨rfl, rfl, fun _ => rfl, fun _ => rfl⟩

theorem sizeWithin_eq_of_says {name s t : String} {low low' : ℕ} {high high' : Option ℕ}
    (hs : (Test.sizeWithin low high).Says name s) (ht : (Test.sizeWithin low' high').Says name t)
    (h : s = t) : low = low' ∧ high = high' := by
  have hlist := congrArg String.toList h
  -- A size "at least" and a size "between" part in the wording before any number.
  cases hs with
  | atLeast =>
    cases ht with
    | atLeast =>
      simp only [natText, String.toList_append, String.toList_ofList,
        List.append_cancel_left_eq] at hlist
      exact ⟨natDigits_injective hlist, rfl⟩
    | between _ u => simp [natText] at hlist
  | between _ u =>
    cases ht with
    | atLeast => simp [natText] at hlist
    | between _ u' =>
      have hcut : (natDigits low ++ [' ']) ++ 'a' :: ("nd ".toList ++ natDigits u) =
          (natDigits low' ++ [' ']) ++ 'a' :: ("nd ".toList ++ natDigits u') := by
        simpa [natText] using hlist
      have hfree (n : ℕ) : 'a' ∉ natDigits n := notMem_natDigits (by decide) n
      obtain ⟨hlow, -, hhigh⟩ := (List.append_cons_inj_of_notMem (by simp [hfree])
        (by simp [hfree])).mp hcut
      have hlow := natDigits_injective (List.append_cancel_right hlow)
      have hhigh := natDigits_injective (List.append_cancel_left hhigh)
      exact ⟨hlow, congrArg some hhigh⟩

/-- Rules of one kind that are worded alike have tests that treat every value alike. -/
theorem holds_eq_of_says {name s t : String} {k l : Constraint} {a b : Test}
    (hkind : k.kind = l.kind) (hk : k.Tests a) (hl : l.Tests b) (hkw : k.IsWhole)
    (hlw : l.IsWhole) (hs : a.Says name s) (ht : b.Says name t) (h : s = t) :
    a.holds = b.holds := by
  cases hk with
  | nonNull =>
    cases hl with
    | nonNull => rfl
    | _ => simp [Constraint.kind] at hkind
  | nonEmpty =>
    cases hl with
    | nonEmpty => rfl
    | _ => simp [Constraint.kind] at hkind
  | range b =>
    cases hl with
    | range c =>
      cases hs with
      | within hb =>
        cases ht with
        | within hc =>
          have hagree := agree_of_rangeMessage_eq hb hc hkw.1 hkw.2 hlw.1 hlw.2 h
          exact hagree.holds_eq
    | _ => simp [Constraint.kind] at hkind
  | size low high =>
    cases hl with
    | size low' high' =>
      obtain ⟨hlow, hhigh⟩ := sizeWithin_eq_of_says hs ht h
      rw [hlow, hhigh]
    | _ => simp [Constraint.kind] at hkind
  | pattern hp =>
    cases hl with
    | pattern hq =>
      cases hs with
      | @matching regex _ hr =>
        cases ht with
        | @matching regex' _ hr' =>
          have hregex : regex = regex' := (String.append_right_inj _).mp h
          subst hregex
          obtain rfl := Except.ok.inj (hr.symm.trans hr')
          rfl
    | _ => simp [Constraint.kind] at hkind

end FluentBuilder
