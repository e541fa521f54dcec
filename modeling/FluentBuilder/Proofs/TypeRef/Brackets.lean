import FluentBuilder.Proofs.Text.Blank
import FluentBuilder.TypeRef.Arguments
import Mathlib.Data.List.Basic

/-!
Texts with angle brackets. `pieces?_eq_some_iff` says what cutting a text at its outer commas
gives: the one list of sealed pieces that the text joins.
-/

namespace FluentBuilder.TypeRef

/-- The brackets match: no part from the start closes more of them than it opens, and the whole
closes as many as it opens. -/
structure Balanced (cs : List Char) : Prop where
  prefixes : ∀ p, p <+: cs → p.count '>' ≤ p.count '<'
  total : cs.count '>' = cs.count '<'

/-- Balanced, and every comma stands inside brackets. -/
structure Sealed (cs : List Char) : Prop extends Balanced cs where
  uncut : ∀ p q, cs = p ++ ',' :: q → p.count '<' ≠ p.count '>'

/-- Neither brackets nor commas. -/
structure Plain (cs : List Char) : Prop where
  noOpen : '<' ∉ cs
  noClose : '>' ∉ cs
  noComma : ',' ∉ cs

instance (cs : List Char) : Decidable (Plain cs) :=
  decidable_of_iff ('<' ∉ cs ∧ '>' ∉ cs ∧ ',' ∉ cs)
    ⟨fun ⟨ho, hc, hm⟩ => ⟨ho, hc, hm⟩, fun ⟨ho, hc, hm⟩ => ⟨ho, hc, hm⟩⟩

section Append

variable {x y : List Char}

theorem prefix_append_iff {p : List Char} :
    p <+: x ++ y ↔ p <+: x ∨ ∃ q, q <+: y ∧ p = x ++ q := by
  constructor
  · rintro ⟨t, h⟩
    rcases List.append_eq_append_iff.mp h with ⟨r, rfl, -⟩ | ⟨r, rfl, rfl⟩
    · exact .inl (List.prefix_append p r)
    · exact .inr ⟨r, List.prefix_append r t, rfl⟩
  · rintro (h | ⟨q, hq, rfl⟩)
    · exact h.trans (List.prefix_append x y)
    · exact (List.prefix_append_right_inj x).mpr hq

theorem Balanced.append (hx : Balanced x) (hy : Balanced y) : Balanced (x ++ y) where
  prefixes p hp := by
    rcases prefix_append_iff.mp hp with hp | ⟨q, hq, rfl⟩
    · exact hx.prefixes p hp
    · have hqy := hy.prefixes q hq
      have hxt := hx.total
      simp only [List.count_append]
      omega
  total := by rw [List.count_append, List.count_append, hx.total, hy.total]

theorem Balanced.of_append_right (h : Balanced (x ++ y)) (hy : Balanced y) : Balanced x where
  prefixes p hp := h.prefixes p (hp.trans (List.prefix_append x y))
  total := by
    have ht := h.total
    have hyt := hy.total
    simp only [List.count_append] at ht
    omega

theorem Balanced.of_append_left (h : Balanced (x ++ y)) (hx : Balanced x) : Balanced y where
  prefixes p hp := by
    have hxp := h.prefixes (x ++ p) ((List.prefix_append_right_inj x).mpr hp)
    have hxt := hx.total
    simp only [List.count_append] at hxp
    omega
  total := by
    have ht := h.total
    have hxt := hx.total
    simp only [List.count_append] at ht
    omega

theorem Sealed.append (hx : Sealed x) (hy : Sealed y) : Sealed (x ++ y) where
  toBalanced := hx.toBalanced.append hy.toBalanced
  uncut p q h := by
    rcases List.append_eq_append_iff.mp h with ⟨r, rfl, hr⟩ | ⟨r, rfl, hr⟩
    · have hxt := hx.total
      have hrt := hy.uncut r q hr
      simp only [List.count_append]
      omega
    · cases r with
      | nil => exact absurd rfl (hy.uncut [] q hr.symm)
      | cons c r =>
        obtain ⟨rfl, -⟩ := List.cons_eq_cons.mp hr
        exact hx.uncut p r rfl

theorem Sealed.of_append_right (h : Sealed (x ++ y)) (hy : Sealed y) : Sealed x where
  toBalanced := h.toBalanced.of_append_right hy.toBalanced
  uncut p q hx := h.uncut p (q ++ y) (by simp [hx])

theorem Sealed.of_append_left (h : Sealed (x ++ y)) (hx : Sealed x) : Sealed y where
  toBalanced := h.toBalanced.of_append_left hx.toBalanced
  uncut p q hy := by
    have hxt := hx.total
    have hp := h.uncut (x ++ p) q (by simp [hy])
    simp only [List.count_append] at hp
    omega

/-- What stands in front of the first opening bracket of a sealed text is plain. -/
theorem Sealed.plain_of_append (h : Sealed (x ++ y)) (hx : '<' ∉ x) : Plain x where
  noOpen := hx
  noClose := by
    have hle := h.prefixes x (List.prefix_append x y)
    rw [List.count_eq_zero_of_not_mem hx] at hle
    exact List.count_eq_zero.mp (by omega)
  noComma hm := by
    obtain ⟨p, q, rfl⟩ := List.append_of_mem hm
    have hopen : p.count '<' = 0 := List.count_eq_zero.mpr fun hp => hx (by simp [hp])
    have hle := h.prefixes p ⟨',' :: q ++ y, by simp⟩
    exact h.uncut p (q ++ y) (by simp) (by omega)

end Append

theorem balanced_of_notMem {cs : List Char} (ho : '<' ∉ cs) (hc : '>' ∉ cs) : Balanced cs where
  prefixes p hp := by
    rw [List.count_eq_zero_of_not_mem fun h => hc (hp.subset h)]
    omega
  total := by rw [List.count_eq_zero_of_not_mem ho, List.count_eq_zero_of_not_mem hc]

theorem Plain.sealed {cs : List Char} (h : Plain cs) : Sealed cs where
  toBalanced := balanced_of_notMem h.noOpen h.noClose
  uncut p q hcs := absurd (by simp [hcs]) h.noComma

theorem plain_of_blank {b : List Char} (hb : Text.Blank b) : Plain b where
  noOpen h := absurd (hb _ h) (by decide)
  noClose h := absurd (hb _ h) (by decide)
  noComma h := absurd (hb _ h) (by decide)

theorem Plain.append {x y : List Char} (hx : Plain x) (hy : Plain y) : Plain (x ++ y) where
  noOpen := by simp [hx.noOpen, hy.noOpen]
  noClose := by simp [hx.noClose, hy.noClose]
  noComma := by simp [hx.noComma, hy.noComma]

theorem Plain.trim {cs : List Char} (h : Plain cs) : Plain (Text.trim cs) where
  noOpen := mt (Text.mem_trim_iff (by decide)).mp h.noOpen
  noClose := mt (Text.mem_trim_iff (by decide)).mp h.noClose
  noComma := mt (Text.mem_trim_iff (by decide)).mp h.noComma

theorem plain_arrayMark : Plain ['[', ']'] := by decide

theorem Sealed.trim {cs : List Char} (h : Sealed cs) : Sealed (Text.trim cs) := by
  obtain ⟨front, back, hf, hb, hcs⟩ := Text.exists_blank_trim cs
  rw [hcs] at h
  exact (h.of_append_right (plain_of_blank hb).sealed).of_append_left (plain_of_blank hf).sealed

/-- A pair of brackets around a balanced text seals it. -/
theorem Balanced.sealed_enclosed {cs : List Char} (h : Balanced cs) :
    Sealed ('<' :: (cs ++ ['>'])) where
  prefixes p hp := by
    rcases List.prefix_cons_iff.mp hp with rfl | ⟨q, rfl, hq⟩
    · exact Nat.le_refl _
    · rcases prefix_append_iff.mp hq with hq | ⟨r, hr, rfl⟩
      · have hle := h.prefixes q hq
        simp
        omega
      · have hle := hr.sublist.count_le '>'
        have ht := h.total
        simp at hle ⊢
        omega
  total := by simp [h.total]
  uncut p q hpq := by
    cases p with
    | nil => simp at hpq
    | cons c p =>
      obtain ⟨rfl, hq⟩ := List.cons_eq_cons.mp hpq
      have hp : p <+: cs := by
        rcases prefix_append_iff.mp ⟨',' :: q, hq.symm⟩ with hp | ⟨r, -, rfl⟩
        · exact hp
        · have hr : ['>'] = r ++ ',' :: q := by simpa using hq
          cases r <;> simp at hr
      have hle := h.prefixes p hp
      simp
      omega

/-- So do brackets behind a plain text, with blanks at the end. -/
theorem Balanced.sealed_between {base inner b : List Char} (hinner : Balanced inner)
    (hbase : Plain base) (hb : Text.Blank b) : Sealed (base ++ '<' :: (inner ++ '>' :: b)) := by
  have h := (hbase.sealed.append hinner.sealed_enclosed).append (plain_of_blank hb).sealed
  simpa using h

theorem balanced_intercalate {sep : List Char} {ps : List (List Char)} (hsep : Balanced sep)
    (h : ∀ p ∈ ps, Balanced p) : Balanced (sep.intercalate ps) := by
  induction ps with
  | nil => exact balanced_of_notMem (by simp) (by simp)
  | cons p ps ih =>
    obtain ⟨hp, hps⟩ := List.forall_mem_cons.mp h
    cases ps with
    | nil => simpa using hp
    | cons q ps =>
      rw [List.intercalate_cons_cons]
      exact (hp.append hsep).append (ih hps)

/-- Sealed behind `depth` open brackets, which the text closes. -/
structure Closes (depth : Nat) (cs : List Char) : Prop where
  prefixes : ∀ p, p <+: cs → p.count '>' ≤ depth + p.count '<'
  total : cs.count '>' = depth + cs.count '<'
  uncut : ∀ p q, cs = p ++ ',' :: q → depth + p.count '<' ≠ p.count '>'

theorem closes_zero_iff {cs : List Char} : Closes 0 cs ↔ Sealed cs := by
  constructor
  · rintro ⟨hp, ht, hu⟩
    simp only [Nat.zero_add] at hp ht hu
    exact { prefixes := hp, total := ht, uncut := hu }
  · rintro ⟨⟨hp, ht⟩, hu⟩
    constructor <;> simpa only [Nat.zero_add]

theorem closes_nil_iff {depth : Nat} : Closes depth [] ↔ depth = 0 := by
  constructor
  · intro h
    simpa using h.total.symm
  · rintro rfl
    exact closes_zero_iff.mpr (Plain.sealed ⟨by simp, by simp, by simp⟩)

def depthAfter (depth : Nat) (c : Char) : Nat :=
  if c = '<' then depth + 1 else if c = '>' then depth - 1 else depth

/-- A first character that closes no bracket in excess and is no outer comma only changes the
depth. -/
theorem closes_cons_iff {depth : Nat} {c : Char} {cs : List Char} :
    Closes depth (c :: cs) ↔
      (c = '>' → depth ≠ 0) ∧ (c = ',' → depth ≠ 0) ∧ Closes (depthAfter depth c) cs := by
  -- The depth after a part of the text is the same, counted from either side of the character.
  have same (p : List Char) (hc : c = '>' → depth ≠ 0) :
      depth + (c :: p).count '<' + p.count '>' =
        depthAfter depth c + p.count '<' + (c :: p).count '>' := by
    unfold depthAfter
    simp only [List.count_cons, beq_iff_eq]
    split_ifs <;> grind
  constructor
  · intro h
    have hc : c = '>' → depth ≠ 0 := by
      rintro rfl hd
      have := h.prefixes ['>'] ⟨cs, rfl⟩
      simp [hd] at this
    refine ⟨hc, fun hcomma hd => ?_, fun p hp => ?_, ?_, fun p q hpq => ?_⟩
    · exact h.uncut [] cs (by rw [hcomma]; rfl) (by simpa using hd)
    · have hle := h.prefixes (c :: p) (List.prefix_cons_inj c |>.mpr hp)
      have := same p hc
      omega
    · have ht := h.total
      have := same cs hc
      omega
    · have hne := h.uncut (c :: p) q (by rw [hpq]; rfl)
      have := same p hc
      omega
  · rintro ⟨hc, hcomma, h⟩
    refine ⟨fun p hp => ?_, ?_, fun p q hpq => ?_⟩
    · rcases List.prefix_cons_iff.mp hp with rfl | ⟨q, rfl, hq⟩
      · simp
      · have hle := h.prefixes q hq
        have := same q hc
        omega
    · have ht := h.total
      have := same cs hc
      omega
    · cases p with
      | nil =>
        obtain ⟨rfl, -⟩ := List.cons_eq_cons.mp hpq
        simpa using hcomma rfl
      | cons d p =>
        obtain ⟨rfl, hcs⟩ := List.cons_eq_cons.mp hpq
        have hne := h.uncut p q hcs
        have := same p hc
        omega

/-- The pieces of a text inside open brackets: the first one closes them, and each is sealed
otherwise. -/
theorem closes_of_piecesAt? {depth : Nat} {cs : List Char} {ps : List (List Char)}
    (h : piecesAt? depth cs = some ps) :
    ∃ p rest, ps = p :: rest ∧ [','].intercalate ps = cs ∧ Closes depth p ∧
      ∀ q ∈ rest, Sealed q := by
  fun_induction piecesAt? depth cs generalizing ps with
  | case1 =>
    obtain rfl := Option.some.inj h
    exact ⟨[], [], rfl, by simp, closes_nil_iff.mpr rfl, by simp⟩
  | case2 => cases h
  | case3 depth cs ih =>
    obtain ⟨qs, hqs, rfl⟩ := Option.map_eq_some_iff.mp h
    obtain ⟨p, rest, rfl, hj, hp, hr⟩ := ih hqs
    refine ⟨'<' :: p, rest, rfl, ?_, closes_cons_iff.mpr ⟨by simp, by simp, hp⟩, hr⟩
    rw [consToFirst, List.intercalate_cons_cons_left, hj]
  | case4 => cases h
  | case5 cs _ outer ih =>
    obtain ⟨qs, hqs, rfl⟩ := Option.map_eq_some_iff.mp h
    obtain ⟨p, rest, rfl, hj, hp, hr⟩ := ih hqs
    refine ⟨'>' :: p, rest, rfl, ?_, closes_cons_iff.mpr ⟨by simp, by simp, hp⟩, hr⟩
    rw [consToFirst, List.intercalate_cons_cons_left, hj]
  | case6 depth c cs ho hc hcomma ih =>
    obtain ⟨qs, hqs, rfl⟩ := Option.map_eq_some_iff.mp h
    obtain ⟨p, rest, rfl, hj, hp, hr⟩ := ih hqs
    obtain ⟨rfl, rfl⟩ := hcomma
    refine ⟨[], p :: rest, rfl, ?_, closes_nil_iff.mpr rfl, ?_⟩
    · rw [List.intercalate_cons_cons, hj]
      rfl
    · exact List.forall_mem_cons.mpr ⟨closes_zero_iff.mp hp, hr⟩
  | case7 depth c cs ho hc hcomma ih =>
    obtain ⟨qs, hqs, rfl⟩ := Option.map_eq_some_iff.mp h
    obtain ⟨p, rest, rfl, hj, hp, hr⟩ := ih hqs
    have hd : depthAfter depth c = depth := by rw [depthAfter, if_neg ho, if_neg hc]
    refine ⟨c :: p, rest, rfl, ?_, closes_cons_iff.mpr ⟨?_, fun hm hz => hcomma ⟨hm, hz⟩, ?_⟩, hr⟩
    · rw [consToFirst, List.intercalate_cons_cons_left, hj]
    · exact fun h => absurd h hc
    · rwa [hd]

/-- In front of a text that is cut, a piece joins the first one. -/
theorem piecesAt?_append {depth : Nat} {p cs first : List Char} {rest : List (List Char)}
    (hp : Closes depth p) (hcs : pieces? cs = some (first :: rest)) :
    piecesAt? depth (p ++ cs) = some ((p ++ first) :: rest) := by
  induction p generalizing depth with
  | nil =>
    obtain rfl := closes_nil_iff.mp hp
    exact hcs
  | cons c p ih =>
    obtain ⟨hc, hcomma, hp⟩ := closes_cons_iff.mp hp
    have hrec := ih hp
    rw [List.cons_append]
    unfold piecesAt?
    by_cases ho : c = '<'
    · subst ho
      rw [if_pos rfl]
      exact Option.map_eq_some_iff.mpr ⟨_, hrec, rfl⟩
    rw [if_neg ho]
    by_cases hcl : c = '>'
    · subst hcl
      obtain ⟨outer, rfl⟩ := Nat.exists_eq_succ_of_ne_zero (hc rfl)
      rw [if_pos rfl]
      exact Option.map_eq_some_iff.mpr ⟨_, hrec, rfl⟩
    · rw [depthAfter, if_neg ho, if_neg hcl] at hrec
      rw [if_neg hcl, if_neg fun h => hcomma h.1 h.2]
      exact Option.map_eq_some_iff.mpr ⟨_, hrec, rfl⟩

theorem pieces?_append {p cs first : List Char} {rest : List (List Char)} (hp : Sealed p)
    (hcs : pieces? cs = some (first :: rest)) : pieces? (p ++ cs) = some ((p ++ first) :: rest) :=
  piecesAt?_append (closes_zero_iff.mpr hp) hcs

theorem pieces?_intercalate {ps : List (List Char)} (hne : ps ≠ []) (hs : ∀ p ∈ ps, Sealed p) :
    pieces? ([','].intercalate ps) = some ps := by
  induction ps with
  | nil => exact absurd rfl hne
  | cons p ps ih =>
    obtain ⟨hp, hps⟩ := List.forall_mem_cons.mp hs
    cases ps with
    | nil => simpa using pieces?_append hp (rfl : pieces? [] = some [[]])
    | cons q ps =>
      have hq := ih (List.cons_ne_nil q ps) hps
      have hcomma : pieces? (',' :: [','].intercalate (q :: ps)) = some ([] :: q :: ps) := by
        simp only [pieces?] at hq
        simp [pieces?, piecesAt?, hq]
      rw [List.intercalate_cons_cons, List.append_assoc]
      simpa using pieces?_append hp hcomma

/-- Cutting at the outer commas gives the sealed pieces that the text joins, and fails if there
are none. -/
theorem pieces?_eq_some_iff {cs : List Char} {ps : List (List Char)} :
    pieces? cs = some ps ↔ ps ≠ [] ∧ [','].intercalate ps = cs ∧ ∀ p ∈ ps, Sealed p := by
  constructor
  · intro h
    obtain ⟨p, rest, rfl, hj, hp, hr⟩ := closes_of_piecesAt? h
    exact ⟨List.cons_ne_nil p rest, hj, List.forall_mem_cons.mpr ⟨closes_zero_iff.mp hp, hr⟩⟩
  · rintro ⟨hne, rfl, hs⟩
    exact pieces?_intercalate hne hs

end FluentBuilder.TypeRef
